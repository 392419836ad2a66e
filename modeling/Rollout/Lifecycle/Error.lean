/-
# Why a hook fails

A hook of a proposal fails because a name has no live resource, because the chain refuses,
because an output of the deployment is missing or malformed, or for a reason of its own.
-/

import Rollout.Registry
import Rollout.Chain.Error

namespace Rollout

/-- What a reader of an output wants it to be. -/
inductive Shape
  | word
  | text
  | bool
  | list
deriving DecidableEq, Repr

namespace Shape

def message : Shape → String
  | word => "u64"
  | text => "a string"
  | bool => "a boolean"
  | list => "a sequence"

end Shape

/-- What is wrong with an output that is there. -/
inductive OutputFault
  | mistyped (found : Value) (wanted : Shape)
  | notAddress (cause : Address.ParseError)
  | other (reason : String)
deriving DecidableEq

namespace OutputFault

/-- The name of a value where another type was wanted. -/
def found : Value → String
  | .null => "null"
  | .bool b => "boolean \x60" ++ toString b ++ "\x60"
  | .number (.int i) => "integer \x60" ++ toString i ++ "\x60"
  | .number (.double x) => "floating point \x60" ++ x.text ++ "\x60"
  | .text s => "string " ++ Text.quoted s
  | .list _ => "sequence"
  | .object _ => "map"

/-- A whole number has the type of a word even where it is out of its range. -/
def problem : Value → Shape → String
  | .number (.int _), .word => "invalid value: "
  | _, _ => "invalid type: "

def message : OutputFault → String
  | mistyped v wanted => problem v wanted ++ found v ++ ", expected " ++ wanted.message
  | notAddress cause => cause.message
  | other reason => reason

end OutputFault

/-- Why a hook fails. -/
inductive HookError
  | lookup (cause : LookupError)
  | chain (cause : ChainError)
  | missingOutput (key : String)
  | malformedOutput (key : String) (fault : OutputFault)
  | failed (message : String)
deriving DecidableEq

namespace HookError

def message : HookError → String
  | lookup cause => cause.message
  | chain cause => "chain: " ++ cause.message
  | missingOutput key => "missing deploy output: " ++ key
  | malformedOutput key fault => "deploy output " ++ key ++ " is malformed: " ++ fault.message
  | failed message => message

/-- The name of the kind of error. -/
def code : HookError → String
  | lookup _ => "Registry"
  | chain _ => "Chain"
  | missingOutput _ => "MissingOutput"
  | malformedOutput _ _ => "MalformedOutput"
  | failed _ => "Failed"

/-- The failed lookup, if that is the cause. -/
def lookup? : HookError → Option LookupError
  | lookup cause => some cause
  | _ => none

end HookError
end Rollout
