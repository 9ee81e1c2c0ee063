import TemplateServer.Text.Blank
import TemplateServer.Text.Quoted

namespace TemplateServer

inductive ConfigError where
  | seed (given : Text)
  | limit (given : Text)
  deriving DecidableEq, Repr

namespace ConfigError

def message : ConfigError → Text
  | seed given => "PERCHANCE_SEED must be an unsigned 64-bit integer, got " ++ given.quoted
  | limit given => "PERCHANCE_MAX_MESSAGE_BYTES must be a positive integer, got " ++ given.quoted

end ConfigError

structure Config where
  seed : Option UInt64
  limit : Nat
  deriving DecidableEq, Repr

namespace Config

def defaultLimit : Nat := 1024 * 1024

def default : Config := ⟨none, defaultLimit⟩

def seedVariable : Text := "PERCHANCE_SEED"

def limitVariable : Text := "PERCHANCE_MAX_MESSAGE_BYTES"

def dropPlus (s : Text) : Text :=
  match s with
  | '+' :: rest => rest
  | _ => s

def number? (given : Text) : Option Nat :=
  (Text.nat? (dropPlus given.trim)).filter (· < UInt64.size)

def seedOf : Option Text → Except ConfigError (Option UInt64)
  | none => .ok none
  | some given =>
    match number? given with
    | none => .error (.seed given)
    | some n => .ok (some (.ofNat n))

def limitOf : Option Text → Except ConfigError Nat
  | none => .ok defaultLimit
  | some given =>
    match number? given with
    | none | some 0 => .error (.limit given)
    | some n => .ok n

def ofLookup (lookup : Text → Option Text) : Except ConfigError Config := do
  let seed ← seedOf (lookup seedVariable)
  let limit ← limitOf (lookup limitVariable)
  return ⟨seed, limit⟩

end Config

end TemplateServer
