import Mathlib.Tactic.Lemma
import TemplateServer.Json.Basic

namespace TemplateServer.Json

/-- What the reader takes back: no doubles, integers of 64 bits, and no deeper nesting. -/
inductive Readable : Nat → Json → Prop
  | null {d : Nat} : Readable d .null
  | bool {d : Nat} (b : Bool) : Readable d (.bool b)
  | int {d : Nat} {n : Int} : -0x8000000000000000 ≤ n → n < UInt64.size → Readable d (.int n)
  | str {d : Nat} (s : Text) : Readable d (.str s)
  | arr {d : Nat} {items : List Json} : (∀ v ∈ items, Readable d v) → Readable (d + 1) (.arr items)
  | obj {d : Nat} {members : Members} : (∀ m ∈ members, Readable d m.2) →
      Readable (d + 1) (.obj members)

mutual

def isReadable : Nat → Json → Bool
  | _, .null => true
  | _, .bool _ => true
  | _, .int n => -0x8000000000000000 ≤ n && n < UInt64.size
  | _, .double _ => false
  | _, .str _ => true
  | 0, .arr _ => false
  | d + 1, .arr items => areReadable d items
  | 0, .obj _ => false
  | d + 1, .obj members => haveReadable d members

def areReadable (d : Nat) : List Json → Bool
  | [] => true
  | v :: rest => isReadable d v && areReadable d rest

def haveReadable (d : Nat) : List (Text × Json) → Bool
  | [] => true
  | (_, v) :: rest => isReadable d v && haveReadable d rest

end

mutual

lemma readable_of_isReadable {d : Nat} {v : Json} (h : isReadable d v = true) : Readable d v := by
  cases v with
  | null => exact .null
  | bool b => exact .bool b
  | int n =>
    simp only [isReadable, Bool.and_eq_true, decide_eq_true_eq] at h
    exact .int h.1 h.2
  | double x => cases h
  | str s => exact .str s
  | arr items =>
    cases d with
    | zero => cases h
    | succ d => exact .arr (readable_of_areReadable h)
  | obj members =>
    cases d with
    | zero => cases h
    | succ d => exact .obj (readable_of_haveReadable h)

lemma readable_of_areReadable {d : Nat} {items : List Json} (h : areReadable d items = true) :
    ∀ v ∈ items, Readable d v := by
  cases items with
  | nil => exact fun _ hv => absurd hv List.not_mem_nil
  | cons v rest =>
    obtain ⟨hv, hrest⟩ := Bool.and_eq_true_iff.mp h
    exact List.forall_mem_cons.mpr ⟨readable_of_isReadable hv, readable_of_areReadable hrest⟩

lemma readable_of_haveReadable {d : Nat} {members : List (Text × Json)}
    (h : haveReadable d members = true) : ∀ m ∈ members, Readable d m.2 := by
  cases members with
  | nil => exact fun _ hm => absurd hm List.not_mem_nil
  | cons m rest =>
    obtain ⟨hv, hrest⟩ := Bool.and_eq_true_iff.mp h
    exact List.forall_mem_cons.mpr ⟨readable_of_isReadable hv, readable_of_haveReadable hrest⟩

end
end TemplateServer.Json
