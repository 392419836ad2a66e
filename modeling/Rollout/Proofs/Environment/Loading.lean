/-
# Loading an environment

A load makes four checks and answers with the first that fails (`Environment.Objection`):

| check | what is missing | answer |
| --- | --- | --- |
| deployer | it is the zero address | `zeroDeployer` |
| version | it is not supported | `unsupportedVersion` |
| required names | some are not listed with an address | `missingAddresses` of them all |
| code, if asked for | some contract has none on the chain | `noCode` of the first |

If none fails, the registry is the whole book, not only what was checked of it
(`Environment.Faithful`).

Only the last check reads the chain, which others change between two loads. So a load that has
failed may succeed later, and one that has succeeded could fail later; that it does not is what the
environment is kept for. `Loader.Tracked` follows loads and changes of the chain in any order.
-/

import Rollout.Environment
import Rollout.Proofs.Errors
import Rollout.Proofs.Registry.Entries

namespace Rollout

/-- What a name stands for is what is listed under it. -/
theorem Listing.find?_eq_some_iff {α : Type} {l : Listing α} {n : String} {a : α} :
    l.find? n = some a ↔ (n, a) ∈ l.toList := by
  rw [find?, Option.map_eq_some_iff]
  constructor
  · rintro ⟨x, found, rfl⟩
    have named : x.1 = n := by simpa using List.find?_some found
    rw [← named]
    exact List.mem_of_find?_eq_some found
  · intro mem
    cases found : l.toList.find? (·.1 == n) with
    | none => simpa using List.find?_eq_none.1 found _ mem
    | some x =>
      have named : x.1 = n := by simpa using List.find?_some found
      have same : x = (n, a) :=
        List.inj_on_of_nodup_map l.distinct (List.mem_of_find?_eq_some found) mem named
      exact ⟨x, rfl, congrArg Prod.snd same⟩

/-- An address is zero if it is the one of zero. -/
theorem Address.isZero_iff {a : Address} : a.isZero = true ↔ a = .zero := beq_iff_eq

/-- An address that is not the one of zero is not zero. -/
theorem Address.isZero_eq_false_iff {a : Address} : a.isZero = false ↔ a ≠ .zero :=
  beq_eq_false_iff_ne

/-! ## Books -/

namespace AddressBook

variable {b : AddressBook} {n : String}

/-- The name has an address in the book, and not the zero address. -/
def Lists (b : AddressBook) (n : String) : Prop := ∃ e, (n, e) ∈ b.toList ∧ e.address ≠ .zero

/-- A name is set exactly if the book lists it. -/
theorem isUnset_eq_false_iff : b.isUnset n = false ↔ b.Lists n := by
  simp only [Lists, ← Listing.find?_eq_some_iff, isUnset]
  cases b.find? n with
  | none => simp
  | some e => simp [Address.isZero_eq_false_iff]

instance (b : AddressBook) : DecidablePred b.Lists :=
  fun _ => decidable_of_iff _ isUnset_eq_false_iff

/-- The missing names are those that the book does not list. -/
theorem missing_eq (b : AddressBook) (required : List String) :
    b.missing required = required.filter fun n => ¬ b.Lists n := by
  refine List.filter_congr fun n _ => ?_
  rw [Bool.eq_iff_iff, decide_eq_true_iff, ← isUnset_eq_false_iff, Bool.not_eq_false]

/-- No name is missing exactly if the book lists all of them. -/
theorem missing_eq_nil_iff {required : List String} :
    b.missing required = [] ↔ ∀ n ∈ required, b.Lists n := by
  simp [missing_eq, List.filter_eq_nil_iff]

/-- The registry of a book has a live entry for each name of it, and no other. -/
theorem find?_registry (b : AddressBook) (n : String) :
    b.registry.current.entries.find? n = (b.find? n).map fun e => .live (e.handle n) := by
  have distinct : (b.handles.map (·.name)).Nodup := by
    rw [handles, List.map_map]
    exact b.distinct
  show (Snapshot.ofHandles b.handles).entries.find? n = _
  rw [Snapshot.find?_ofHandles]
  cases listed : b.find? n with
  | some e =>
    have mem : e.handle n ∈ b.handles := List.mem_map.2 ⟨_, Listing.find?_eq_some_iff.1 listed, rfl⟩
    rw [show n = (e.handle n).name from rfl, Snapshot.find?_reverse_of_mem distinct mem]
    rfl
  | none =>
    have absent : b.handles.reverse.find? (·.name = n) = none := by
      refine List.find?_eq_none.2 fun h hh => ?_
      obtain ⟨x, hx, rfl⟩ := List.mem_map.1 (List.mem_reverse.1 hh)
      intro same
      have named : x.1 = n := of_decide_eq_true same
      rw [Listing.find?_eq_some_iff.2 (named ▸ hx : (n, x.2) ∈ b.toList)] at listed
      cases listed
    rw [absent]
    rfl

end AddressBook

/-! ## One load -/

/-- An entry of a book has code on the chain, if it is a contract. -/
def BookEntry.Standing (c : Chain) (e : BookEntry) : Prop :=
  e.kind.isContract = true → c.hasCode e.address = true

namespace Environment

variable {config : EnvironmentConfig} {book : AddressBook} {c : Chain} {env : Environment}
  {e : EnvironmentError}

/-- All checks pass. -/
structure Admissible (config : EnvironmentConfig) (book : AddressBook) (c : Chain) : Prop where
  deployer : config.deployer ≠ .zero
  version : config.stateVersion ∈ EnvironmentConfig.supportedVersions
  listed : ∀ n ∈ config.required, book.Lists n
  standing : config.verifyCode = true → ∀ x ∈ book.toList, x.2.Standing c

/-- The error is that of the first check that fails. -/
inductive Objection (config : EnvironmentConfig) (book : AddressBook) (c : Chain) :
    EnvironmentError → Prop
  | zeroDeployer (zero : config.deployer = .zero) : Objection config book c .zeroDeployer
  | unsupportedVersion (deployer : config.deployer ≠ .zero)
      (unsupported : config.stateVersion ∉ EnvironmentConfig.supportedVersions) :
      Objection config book c (.unsupportedVersion config.stateVersion)
  | missingAddresses (deployer : config.deployer ≠ .zero)
      (version : config.stateVersion ∈ EnvironmentConfig.supportedVersions)
      (unlisted : ∃ n ∈ config.required, ¬ book.Lists n) :
      Objection config book c (.missingAddresses (config.required.filter fun n => ¬ book.Lists n))
  | noCode (deployer : config.deployer ≠ .zero)
      (version : config.stateVersion ∈ EnvironmentConfig.supportedVersions)
      (listed : ∀ n ∈ config.required, book.Lists n) (verifies : config.verifyCode = true)
      {before after : List (String × BookEntry)} {x : String × BookEntry}
      (split : book.toList = before ++ x :: after) (earlier : ∀ y ∈ before, y.2.Standing c)
      (hollow : ¬ x.2.Standing c) : Objection config book c (.noCode x.1 x.2.address)

/-- The environment starts from the whole book: each name of it is live with what the book has of
it, and there are no others. -/
structure Faithful (config : EnvironmentConfig) (book : AddressBook) (env : Environment) : Prop where
  config : env.config = config
  baseline : ∀ n, env.baseline.entries.find? n = (book.find? n).map fun e =>
    .live { name := n, address := e.address, kind := e.kind, artifact := e.artifact? }

/-- What a load comes to. -/
structure Decided (config : EnvironmentConfig) (book : AddressBook) (c : Chain)
    (answer : Except EnvironmentError Environment) : Prop where
  succeeds_iff : (∃ env, answer = .ok env) ↔ Admissible config book c
  faithful : ∀ env, answer = .ok env → Faithful config book env
  fails_iff : ∀ e, answer = .error e ↔ Objection config book c e

/-- An entry stands exactly if it is no contract or has code. -/
theorem standing_iff {x : BookEntry} :
    x.Standing c ↔ (x.kind.isContract && !c.hasCode x.address) = false := by
  rw [BookEntry.Standing]
  cases x.kind.isContract <;> simp

/-- No entry is without code exactly if all stand. -/
theorem withoutCode?_eq_none_iff :
    withoutCode? c book = none ↔ ∀ x ∈ book.toList, x.2.Standing c := by
  simp only [withoutCode?, List.find?_eq_none, standing_iff, Bool.not_eq_true]

/-- The entry that is reported is the first that does not stand. -/
theorem withoutCode?_eq_some_iff {x : String × BookEntry} :
    withoutCode? c book = some x ↔ ¬ x.2.Standing c ∧ ∃ before after,
      book.toList = before ++ x :: after ∧ ∀ y ∈ before, y.2.Standing c := by
  simp only [withoutCode?, List.find?_eq_some_iff_append, standing_iff, Bool.not_eq_false,
    Bool.not_eq_eq_eq_not, Bool.not_true]

/-- What is admissible is loaded with the registry of the book. -/
theorem load_of_admissible (h : Admissible config book c) :
    load config book c = .ok { config, baseline := book.registry.current } := by
  have deployer : config.deployer.isZero = false := Address.isZero_eq_false_iff.2 h.deployer
  have missing : book.missing config.required = [] := AddressBook.missing_eq_nil_iff.2 h.listed
  have standing : (if config.verifyCode then withoutCode? c book else none) = none := by
    split
    · next verifies => exact withoutCode?_eq_none_iff.2 (h.standing verifies)
    · rfl
  simp [load, deployer, h.version, missing, standing]

/-- What there is an objection to is not loaded, for that reason. -/
theorem load_of_objection (h : Objection config book c e) : load config book c = .error e := by
  have nonzero := (Address.isZero_eq_false_iff (a := config.deployer)).2
  cases h with
  | zeroDeployer zero => rw [load, if_pos (Address.isZero_iff.2 zero)]
  | unsupportedVersion deployer unsupported => simp [load, nonzero deployer, unsupported]
  | missingAddresses deployer version unlisted =>
    rw [← AddressBook.missing_eq]
    cases missing : book.missing config.required with
    | nil =>
      obtain ⟨n, hn, absent⟩ := unlisted
      exact absurd (AddressBook.missing_eq_nil_iff.1 missing n hn) absent
    | cons n ns => simp [load, nonzero deployer, version, missing]
  | noCode deployer version listed verifies split earlier hollow =>
    have first := withoutCode?_eq_some_iff.2 ⟨hollow, _, _, split, earlier⟩
    simp [load, nonzero deployer, version, AddressBook.missing_eq_nil_iff.2 listed, verifies, first]

/-- Checks pass, or there is a first that does not. -/
theorem admissible_or_objection (config : EnvironmentConfig) (book : AddressBook) (c : Chain) :
    Admissible config book c ∨ ∃ e, Objection config book c e := by
  by_cases deployer : config.deployer = .zero
  · exact .inr ⟨_, .zeroDeployer deployer⟩
  by_cases version : config.stateVersion ∈ EnvironmentConfig.supportedVersions
  swap
  · exact .inr ⟨_, .unsupportedVersion deployer version⟩
  by_cases unlisted : ∃ n ∈ config.required, ¬ book.Lists n
  · exact .inr ⟨_, .missingAddresses deployer version unlisted⟩
  have listed : ∀ n ∈ config.required, book.Lists n := by simpa using unlisted
  by_cases verifies : config.verifyCode = true
  swap
  · exact .inl ⟨deployer, version, listed, fun h => absurd h verifies⟩
  cases found : withoutCode? c book with
  | none =>
    exact .inl ⟨deployer, version, listed, fun _ => withoutCode?_eq_none_iff.1 found⟩
  | some x =>
    obtain ⟨hollow, before, after, split, earlier⟩ := withoutCode?_eq_some_iff.1 found
    exact .inr ⟨_, .noCode deployer version listed verifies split earlier hollow⟩

/-- What loading checks, and what it makes. -/
theorem load_eq_ok_iff : load config book c = .ok env ↔
    Admissible config book c ∧ env = { config, baseline := book.registry.current } := by
  constructor
  · intro loaded
    rcases admissible_or_objection config book c with admissible | ⟨e, objection⟩
    · rw [load_of_admissible admissible] at loaded
      exact ⟨admissible, (Except.ok.inj loaded).symm⟩
    · rw [load_of_objection objection] at loaded
      cases loaded
  · rintro ⟨admissible, rfl⟩
    exact load_of_admissible admissible

/-- Loading fails with an error exactly if that is the objection. -/
theorem load_eq_error_iff : load config book c = .error e ↔ Objection config book c e := by
  refine ⟨fun failed => ?_, load_of_objection⟩
  rcases admissible_or_objection config book c with admissible | ⟨e', objection⟩
  · rw [load_of_admissible admissible] at failed
    cases failed
  · rw [load_of_objection objection] at failed
    exact Except.error.inj failed ▸ objection

/-- **Loading decides by the objections**, and takes the registry of the book. -/
theorem decided_load (config : EnvironmentConfig) (book : AddressBook) (c : Chain) :
    Decided config book c (load config book c) where
  succeeds_iff := by
    simp only [load_eq_ok_iff, exists_and_left, exists_eq, and_true]
  faithful env loaded := by
    obtain ⟨-, rfl⟩ := load_eq_ok_iff.1 loaded
    exact ⟨rfl, book.find?_registry⟩
  fails_iff e := load_eq_error_iff

end Environment

/-! ## Loads and changes of the chain -/

namespace Loader

/-- What happens around a loader: it is asked to load, or the chain becomes another. -/
inductive Event
  | load
  | turn (chain : Chain)

/-- A loader beside the chain that it reads, with what its loads came to so far, each with the
chain as it was then. -/
structure Tracked where
  loader : Loader
  chain : Chain
  log : List (Chain × Except EnvironmentError Environment) := []

namespace Tracked

/-- A loader that has not been asked yet. -/
def start (config : EnvironmentConfig) (book : AddressBook) (chain : Chain) : Tracked where
  loader := { config, book }
  chain

/-- Where one event leads: loading is written down with the chain that it finds. -/
def after (t : Tracked) : Event → Tracked
  | .load => {
      t with
      loader := (t.loader.load t.chain).2
      log := t.log ++ [(t.chain, (t.loader.load t.chain).1)] }
  | .turn chain => { t with chain }

/-- Where events lead, one after another. -/
def follow (t : Tracked) (es : List Event) : Tracked := es.foldl after t

end Tracked

/-- Loads are decided by the checks until one succeeds, and from then on by what it came to. -/
structure Conforms (config : EnvironmentConfig) (book : AddressBook) (t : Tracked) : Prop where
  configured : t.loader.config = config
  stocked : t.loader.book = book
  /-- A load after none but failed ones is decided by the checks, on the chain as it was then. -/
  checked : ∀ before x after, t.log = before ++ x :: after →
    (∀ y ∈ before, ∃ e, y.2 = .error e) → Environment.Decided config book x.1 x.2
  /-- A load after one that succeeded comes to the same, whatever the chain was. -/
  repeated : ∀ before x after, t.log = before ++ x :: after →
    ∀ c env, (c, .ok env) ∈ before → x.2 = .ok env
  nothing : (∀ y ∈ t.log, ∃ e, y.2 = .error e) → t.loader.loaded = none
  kept : ∀ c env, (c, .ok env) ∈ t.log → t.loader.loaded = some env

/-- A loader that has an environment hands it back, whatever became of the chain. -/
theorem load_of_loaded {l : Loader} {env : Environment} (kept : l.loaded = some env) (c : Chain) :
    l.load c = (.ok env, l) := by
  rw [load, kept]

/-- A loader without an environment loads, and keeps what it gets. -/
theorem load_of_fresh {l : Loader} (fresh : l.loaded = none) (c : Chain) :
    l.load c = (Environment.load l.config l.book c,
      { l with loaded := (Environment.load l.config l.book c).toOption }) := by
  obtain ⟨config, book, loaded⟩ := l
  subst fresh
  rw [load]
  cases Environment.load config book c <;> rfl

/-- What holds of each place of a list on account of those before it, and of one more after them
all, holds of each place of the longer list. -/
theorem forall_split_concat {α : Type} {P : List α → α → Prop} {l : List α} {a : α}
    (h : ∀ before x after, l = before ++ x :: after → P before x) (last : P l a) :
    ∀ before x after, l ++ [a] = before ++ x :: after → P before x := by
  intro before x after split
  rcases List.eq_nil_or_concat after with rfl | ⟨after, z, rfl⟩
  · obtain ⟨rfl, same⟩ := List.append_inj' split rfl
    cases same
    exact last
  · rw [List.concat_eq_append, ← List.cons_append, ← List.append_assoc] at split
    exact h before x after (List.append_inj' split rfl).1

namespace Conforms

variable {config : EnvironmentConfig} {book : AddressBook} {t : Tracked}

/-- A loader starts with nothing loaded. -/
theorem start (config : EnvironmentConfig) (book : AddressBook) (c : Chain) :
    Conforms config book (.start config book c) where
  configured := rfl
  stocked := rfl
  checked before x after split := absurd split (by simp [Tracked.start])
  repeated before x after split := absurd split (by simp [Tracked.start])
  nothing _ := rfl
  kept _ _ mem := nomatch mem

/-- Either all loads have failed, or one has not. -/
theorem failed_or (t : Tracked) :
    (∀ y ∈ t.log, ∃ e, y.2 = .error e) ∨ ∃ c env, (c, .ok env) ∈ t.log := by
  rw [or_iff_not_imp_right]
  rintro none ⟨c, answer⟩ mem
  cases answer with
  | error e => exact ⟨e, rfl⟩
  | ok env => exact absurd ⟨c, env, mem⟩ none

/-- After failures, a load is made anew, and kept if it succeeds. -/
theorem load_of_failed (h : Conforms config book t) (failed : ∀ y ∈ t.log, ∃ e, y.2 = .error e) :
    Conforms config book (t.after .load) := by
  have fresh : ∀ c env, (c, .ok env) ∉ t.log := fun c env mem => nomatch failed _ mem
  have answer := load_of_fresh (h.nothing failed) t.chain
  rw [h.configured, h.stocked] at answer
  have logged : (t.after .load).log =
      t.log ++ [(t.chain, Environment.load config book t.chain)] := by
    rw [Tracked.after, answer]
  have keeps : (t.after .load).loader.loaded =
      (Environment.load config book t.chain).toOption := by
    rw [Tracked.after, answer]
  refine ⟨by rw [Tracked.after, answer], by rw [Tracked.after, answer], ?_, ?_, ?_, ?_⟩
  · rw [logged]
    exact forall_split_concat h.checked fun _ => Environment.decided_load config book t.chain
  · rw [logged]
    exact forall_split_concat h.repeated fun c env mem => absurd mem (fresh c env)
  · intro failed'
    obtain ⟨e, error⟩ := failed' _ (logged ▸ List.mem_concat_self)
    exact keeps.trans (congrArg Except.toOption error)
  · intro c env mem
    rw [logged, List.mem_append, List.mem_singleton] at mem
    rcases mem with mem | last
    · exact absurd mem (fresh c env)
    · exact keeps.trans (congrArg (Except.toOption ∘ Prod.snd) last).symm

/-- After a success, a load comes to what is kept, and changes nothing. -/
theorem load_of_succeeded (h : Conforms config book t) {c : Chain} {env : Environment}
    (succeeded : (c, .ok env) ∈ t.log) : Conforms config book (t.after .load) := by
  have answer := load_of_loaded (h.kept c env succeeded) t.chain
  have logged : (t.after .load).log = t.log ++ [(t.chain, .ok env)] := by
    rw [Tracked.after, answer]
  have keeps : (t.after .load).loader = t.loader := by
    rw [Tracked.after, answer]
  have only : ∀ c' env', (c', .ok env') ∈ t.log → env' = env := fun c' env' mem =>
    Option.some.inj ((h.kept c' env' mem).symm.trans (h.kept c env succeeded))
  refine ⟨keeps ▸ h.configured, keeps ▸ h.stocked, ?_, ?_, ?_, ?_⟩
  · rw [logged]
    exact forall_split_concat h.checked fun failed => nomatch failed _ succeeded
  · rw [logged]
    exact forall_split_concat h.repeated fun c' env' mem => only c' env' mem ▸ rfl
  · intro failed
    obtain ⟨e, ⟨⟩⟩ := failed _ (logged ▸ List.mem_append_left _ succeeded)
  · intro c' env' mem
    rw [logged, List.mem_append, List.mem_singleton] at mem
    rw [keeps]
    rcases mem with mem | last
    · exact h.kept c' env' mem
    · cases last
      exact h.kept c env succeeded

/-- One event more is conformed to. -/
theorem after (h : Conforms config book t) (e : Event) : Conforms config book (t.after e) := by
  cases e with
  | turn chain => exact { h with }
  | load =>
    rcases failed_or t with failed | ⟨c, env, succeeded⟩
    · exact h.load_of_failed failed
    · exact h.load_of_succeeded succeeded

end Conforms

/-- **Loading is decided by the checks until it succeeds once, and then no more.** Of any number of
loads, with any changes of the chain between them, each up to the first success is decided by what
is configured, what the book lists and what has code just then; each later one comes to the
environment of the first success. -/
theorem conforms_follow (config : EnvironmentConfig) (book : AddressBook) (c : Chain)
    (es : List Event) : Conforms config book ((Tracked.start config book c).follow es) := by
  generalize started : Tracked.start config book c = t
  have conforms : Conforms config book t := started ▸ .start config book c
  clear started
  induction es generalizing t with
  | nil => exact conforms
  | cons e es ih => exact ih (t.after e) (conforms.after e)

/-- A contract without code is a reason to refuse until it has some, and none once it had. -/
example :
    let core := Address.ofNat 1
    let config : EnvironmentConfig := { deployer := .ofNat 2, verifyCode := true }
    let book := AddressBook.withEntry .empty "core" core .core
    ((Tracked.start config book .empty).follow
      [.load, .turn (Chain.empty.install core "Core"), .load, .turn .empty, .load]).log.map
      (errorOf? ·.2) = [some (.noCode "core" core), none, none] := by
  decide

end Loader
end Rollout
