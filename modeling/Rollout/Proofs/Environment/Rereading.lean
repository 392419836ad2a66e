/-
# Starting files read back

What a run starts from is kept in two files, the genesis of a chain and the address book. Both are
read back as what was written: the genesis provided that the values in its storage slots are
genuine, and the book as it is (`Genesis.decode_document_book`). A genesis that was itself read is
of that kind (`Genesis.yields_genuine`).

Of the two forms of a book's entry the record is tried first. A bare address is written as text,
which is no record, so no entry is read as the other form (`BookEntry.reads_document`).
-/

import Rollout.Environment.Book
import Rollout.Genesis
import Rollout.Proofs.Address.Text
import Rollout.Proofs.Catalogue.Rereading

namespace Rollout

open Decoder

/-- An address that is written is read back. -/
theorem Address.reads_document (a : Address) : Reads decode a.document a := by
  intro dialect
  rw [decode, document, reads_text _ dialect, Option.bind_eq_bind, Option.bind_some, ofText_text]
  rfl

/-- A reading that is written is read back. -/
theorem Reading.reads_document (r : Reading) : Reads decode r.document r := by
  intro dialect
  have value := r.value.reads_document dialect
  rw [decode, document, record_map]
  case names => rfl
  case distinct => decide
  simp [required, orElse, reads_bool _ dialect, value]

/-! ## Contracts -/

namespace GenesisContract

/-- The values in the storage slots are genuine. -/
def Genuine (g : GenesisContract) : Prop := ∀ e ∈ g.storage.entries, e.2.Genuine

/-- A contract that is written is read back. -/
theorem reads_document {g : GenesisContract} (h : g.Genuine) : Reads decode g.document g := by
  intro dialect
  have address := g.address.reads_document dialect
  have storage := reads_entries Value.document (fun e he => (h e he).reads) dialect
  have oracle : orElse none (option Reading.decode) dialect
      ((g.oracle.map Reading.document).map Document.node) = some g.oracle := by
    cases g.oracle with
    | none => rfl
    | some r => exact reads_option r.reads_document (by simp [Reading.document]) dialect
  rw [decode, document, record_ofFields]
  case names => rfl
  case distinct => decide
  simp only [List.map_cons, List.map_nil, Option.map_some, Option.bind_eq_bind, Option.bind_some,
    oracle]
  simp [required, orElse, reads_text _ dialect, reads_bool _ dialect, address, storage,
    Table.ofList_entries]

/-- A contract that is read has a genuine storage. -/
theorem yields_genuine : Yields decode Genuine := by
  intro dialect n g read
  obtain ⟨fields, -, read⟩ := Option.bind_eq_some_iff.1 read
  split at read
  · simp only [Option.bind_eq_bind, Option.bind_eq_some_iff, Option.pure_def,
      Option.some.injEq] at read
    obtain ⟨slots, hSlots, _, -, _, -, _, -, _, -, rfl⟩ := read
    have genuine : ∀ e ∈ slots, e.2.Genuine :=
      of_orElse (P := fun slots => ∀ e ∈ slots, e.2.Genuine) (yields_entries yields_value)
        (by simp) hSlots
    exact fun e he => genuine e (Table.mem_of_mem_ofList he)
  · cases read

end GenesisContract

/-! ## Balances -/

/-- A balance that is written is read back. -/
theorem GenesisBalance.reads_document (b : GenesisBalance) : Reads decode b.document b := by
  intro dialect
  have token := b.token.reads_document dialect
  have holder := b.holder.reads_document dialect
  have amount := b.amount.reads_document dialect
  rw [decode, document, record_map]
  case names => rfl
  case distinct => decide
  simp [required, token, holder, amount]

/-- A native balance that is written is read back. -/
theorem GenesisNative.reads_document (n : GenesisNative) : Reads decode n.document n := by
  intro dialect
  have account := n.account.reads_document dialect
  have amount := n.amount.reads_document dialect
  rw [decode, document, record_map]
  case names => rfl
  case distinct => decide
  simp [required, account, amount]

/-! ## Address books -/

/-- An entry with details that is written is read back. -/
theorem BookEntry.decodeDetailed_document (address : Address) (kind : Kind)
    (artifact : Option String) (dialect : Dialect) :
    decodeDetailed dialect (detailed address kind artifact).document.node
      = some (detailed address kind artifact) := by
  have given : orElse none (option text) dialect
      ((artifact.map Document.text).map Document.node) = some artifact := by
    cases artifact with
    | none => rfl
    | some s => exact reads_option (reads_text s) (by simp) dialect
  -- The kind is written under the first of its two names.
  have fields : Fields.of? [["address"], ["kind", "category"], ["artifact"]] dialect
        (detailed address kind artifact).document.node
      = some [some address.document.node, some kind.document.node,
          (artifact.map Document.text).map Document.node] := by
    have plain : record ["address", "kind", "artifact"] dialect
          (detailed address kind artifact).document.node
        = some [some address.document.node, some kind.document.node,
            (artifact.map Document.text).map Document.node] := by
      rw [document, record_ofFields]
      case names => rfl
      case distinct => decide
      rfl
    rw [← plain]
    refine of?_map_eq_record rfl (fun e he => ?_) dialect
    have key := key_mem_of_mem_present he
    simp only [List.map_cons, List.map_nil, List.mem_cons, List.not_mem_nil, or_false] at key
    rcases key with key | key | key
    all_goals rw [key]; rfl
  obtain ⟨es, shape⟩ : ∃ es, (detailed address kind artifact).document.node = .map es :=
    ⟨_, Document.node_map _⟩
  rw [shape] at fields ⊢
  simp only [decodeDetailed, fields, Option.bind_eq_bind, Option.bind_some, required, given,
    address.reads_document dialect]
  simp [orElse, kind.reads_document dialect]

/-- An entry is read back in the form that it has. -/
theorem BookEntry.reads_document (e : BookEntry) : Reads decode e.document e := by
  refine reads_settled ?_
  cases e with
  | detailed address kind artifact =>
    rw [decodeDetailed_document]
    rfl
  | bare address =>
    have text : decodeDetailed .json (bare address).document.node = none := rfl
    have read : Address.decode .json (bare address).document.node = some address :=
      address.reads_document .json
    rw [text, read]
    rfl

/-- An address book that is written is read back, in its order and with the form of its entries. -/
theorem AddressBook.reads_document (b : AddressBook) : Reads decode (document b) b := by
  intro dialect
  have entries : Reads (entries BookEntry.decode) (document b) b.toList :=
    reads_entries _ fun e _ => e.2.reads_document
  rw [decode, entries dialect]
  simp [Listing.ofList_toList]

/-! ## Genesis -/

namespace Genesis

/-- The values in the storage slots of the contracts are genuine. -/
def Genuine (g : Genesis) : Prop := ∀ x ∈ g.contracts, x.Genuine

/-- Timelocks that are written are read back. -/
theorem reads_decodeTimelocks (t : Table Category Address) :
    Reads decodeTimelocks (.map (t.entries.map fun e => (e.1.text, e.2.document))) t := by
  intro dialect
  have entries := reads_entriesBy Category.text Address.document
    (fun e _ => e.1.reads_document) (fun e (_ : e ∈ t.entries) => e.2.reads_document) dialect
  rw [decodeTimelocks, entries]
  simp [Table.ofList_entries]

/-- A genesis that is written is read back. -/
theorem reads_document {g : Genesis} (h : g.Genuine) : Reads decode g.document g := by
  intro dialect
  have contracts := reads_list GenesisContract.document
    (fun x hx => GenesisContract.reads_document (h x hx)) dialect
  have roles := reads_entries (fun as : List Address => .list (as.map Address.document))
    (fun e (_ : e ∈ g.roles.entries) =>
      reads_list Address.document fun a _ => a.reads_document) dialect
  have balances := reads_list GenesisBalance.document
    (fun b (_ : b ∈ g.balances) => b.reads_document) dialect
  have native := reads_list GenesisNative.document
    (fun n (_ : n ∈ g.native) => n.reads_document) dialect
  have timelocks := reads_decodeTimelocks g.timelocks dialect
  rw [decode, document, record_map]
  case names => rfl
  case distinct => decide
  simp [orElse, contracts, roles, balances, native, timelocks, Table.ofList_entries]

/-- A genesis that is read has genuine contracts. -/
theorem yields_genuine : Yields decode Genuine := by
  intro dialect n g read
  obtain ⟨fields, -, read⟩ := Option.bind_eq_some_iff.1 read
  split at read
  · simp only [Option.bind_eq_bind, Option.bind_eq_some_iff, Option.pure_def,
      Option.some.injEq] at read
    obtain ⟨_, -, contracts, hContracts, _, -, _, -, _, -, rfl⟩ := read
    exact forall_of_orElse GenesisContract.yields_genuine hContracts
  · cases read

/-- **A genesis and an address book are read back from what they are written as**, in whatever
dialect: equal in every part, the entries of the book in their order and each in its form. Of a
genesis that was made and not read the values in its storage have to be genuine. -/
theorem decode_document_book :
    (∀ (dialect : Dialect) (g : Genesis), g.Genuine → decode dialect g.document.node = some g) ∧
    (∀ (dialect dialect' : Dialect) (n : Node) (g : Genesis),
      decode dialect n = some g → decode dialect' g.document.node = some g) ∧
    ∀ (dialect : Dialect) (b : AddressBook),
      AddressBook.decode dialect (AddressBook.document b).node = some b :=
  ⟨fun dialect _ genuine => reads_document genuine dialect,
    fun dialect dialect' n _ read => reads_document (yields_genuine dialect n _ read) dialect',
    fun dialect b => b.reads_document dialect⟩

end Genesis

namespace Drill

/-- A genesis with nested storage, a reading that is not valid, a role nobody holds and the
greatest amount. -/
def colony : Genesis where
  contracts := [
    { address := .ofNat 1
      artifact := "Feed"
      storage := .ofList
        [("limits", .object [("cap", .nat 5), ("tags", .list [.null, .text "a"])])]
      paused := true
      oracle := some { value := .greatest, valid := false } },
    { address := .ofNat 2, artifact := "" }]
  roles := .ofList [("KEEPER", []), ("GOVERN_ROLE", [.ofNat 7, .ofNat 7])]
  balances := [{ token := .ofNat 1, holder := .ofNat 7, amount := .greatest }]
  native := [{ account := .ofNat 7, amount := .zero }]
  timelocks := .ofList [(.none, .ofNat 7), (.dao, .ofNat 9)]

/-- The genesis is genuine. -/
theorem colony_genuine : colony.Genuine := by
  intro x hx
  simp only [colony, List.mem_cons, List.not_mem_nil, or_false] at hx
  rcases hx with rfl | rfl
  · intro e he
    obtain rfl := List.mem_singleton.1 (Table.mem_of_mem_ofList he)
    have tags : ∀ v ∈ [Value.null, .text "a"], v.Genuine := by
      simp [Value.Genuine.null, Value.Genuine.text]
    refine .object (List.pairwise_pair.2 (by decide)) ?_
    simp [Value.nat, Value.Genuine.int, Value.Genuine.list tags]
  · intro e he
    cases he

/-- A file of a genesis, with an amount as a number and the other spelling of a category. -/
def charter : Node := .map [
  (.text "timelocks", .map [(.text "TC", Address.zero.document.node)]),
  (.text "native", .list [.map [
    (.text "amount", .number (.int 25)), (.text "account", Address.zero.document.node)]])]

/-- What is read off that file. -/
def chartered : Genesis where
  native := [{ account := .zero, amount := ⟨25, by decide⟩ }]
  timelocks := .ofList [(.tribalCouncil, .zero)]

/-- A book with entries of both forms, the names not in order. -/
def atlas : AddressBook where
  toList := [
    ("pool", .bare (.ofNat 2)),
    ("core", .detailed (.ofNat 1) .core (some "Core")),
    ("fund", .detailed (.ofNat 2) .external none)]

end Drill

namespace Genesis

/-- The genesis, the charter and the atlas are written and read back. -/
theorem decode_document_book_colony :
    Drill.colony.Genuine ∧ decode .json Drill.colony.document.node = some Drill.colony ∧
      decode .json Drill.charter = some Drill.chartered ∧
      decode .json Drill.chartered.document.node = some Drill.chartered ∧
      AddressBook.decode .json (AddressBook.document Drill.atlas).node = some Drill.atlas := by
  have read : decode .json Drill.charter = some Drill.chartered := by decide +kernel
  obtain ⟨made, again, book⟩ := decode_document_book
  exact ⟨Drill.colony_genuine, made .json _ Drill.colony_genuine, read, again .json .json _ _ read,
    book .json Drill.atlas⟩

end Genesis
end Rollout
