import Mathlib
import TemplateServer.Config
import TemplateServer.Proofs.Text.Decimal

namespace TemplateServer.Config

open Text

inductive Gives : Text → Nat → Prop
  | mk {before sign digits after : Text} {n : Nat} : (∀ c ∈ before, isBlank c = true) →
      sign ∈ [[], ['+']] → IsDecimal digits n → (∀ c ∈ after, isBlank c = true) →
      n < UInt64.size → Gives (before ++ (sign ++ digits) ++ after) n

lemma dropPlus_cases (s : Text) : ∃ sign ∈ [[], ['+']], s = sign ++ dropPlus s := by
  rw [dropPlus.eq_def]
  split
  · exact ⟨['+'], by simp, rfl⟩
  · exact ⟨[], by simp, rfl⟩

section

variable {sign digits : Text} {n : Nat} (hsign : sign ∈ [[], ['+']]) (h : IsDecimal digits n)

include hsign h

lemma dropPlus_append : dropPlus (sign ++ digits) = digits := by
  rw [List.mem_pair] at hsign
  rcases hsign with rfl | rfl
  · rw [List.nil_append, dropPlus.eq_def]
    split
    · have hplus := h.isDigit '+' List.mem_cons_self
      cases hplus
    · rfl
  · rfl

lemma trim_sign_append : trim (sign ++ digits) = sign ++ digits := by
  have hblank : ∀ c ∈ sign ++ digits, isBlank c = false := by
    intro c hc
    rcases List.mem_append.mp hc with hc | hc
    · rw [List.mem_pair] at hsign
      rcases hsign with rfl | rfl
      · cases hc
      · rw [List.mem_singleton.mp hc]
        rfl
    · have hdigit := h.isDigit c hc
      exact isBlank_of_isWord (by simp [isWord, Char.isAlphanum, hdigit])
  apply trim_eq_self_iff.mpr
  exact ⟨fun c hc => hblank c (List.mem_of_head? hc),
    fun c hc => hblank c (List.mem_of_getLast? hc)⟩

end

lemma number?_eq_some_iff {given : Text} {n : Nat} : number? given = some n ↔ Gives given n := by
  constructor
  · intro h
    obtain ⟨hn, hlt⟩ := Option.filter_eq_some_iff.mp h
    obtain ⟨before, after, hbefore, hafter, hgiven⟩ := exists_blanks given
    obtain ⟨sign, hsign, htrim⟩ := dropPlus_cases given.trim
    rw [hgiven, htrim]
    exact .mk hbefore hsign (nat?_eq_some_iff.mp hn) hafter (of_decide_eq_true hlt)
  · rintro ⟨hbefore, hsign, hdigits, hafter, hlt⟩
    rw [number?, trim_append_blanks hafter, trim_blanks_append hbefore,
      trim_sign_append hsign hdigits, dropPlus_append hsign hdigits, nat?_eq_some_iff.mpr hdigits]
    exact Option.filter_eq_some_iff.mpr ⟨rfl, decide_eq_true hlt⟩

lemma Gives.toNat_ofNat {given : Text} {n : Nat} (h : Gives given n) :
    (UInt64.ofNat n).toNat = n := by
  obtain ⟨_, _, _, _, hlt⟩ := h
  exact UInt64.toNat_ofNat_of_lt' hlt

inductive Seeds : Option Text → Option UInt64 → Prop
  | unset : Seeds none none
  | set {given : Text} {seed : UInt64} : Gives given seed.toNat → Seeds (some given) (some seed)

inductive Limits : Option Text → Nat → Prop
  | unset : Limits none defaultLimit
  | set {given : Text} {limit : Nat} : Gives given limit → 0 < limit → Limits (some given) limit

lemma Gives.seeds {given : Text} {n : Nat} (h : Gives given n) :
    Seeds (some given) (some (.ofNat n)) := by
  rw [← h.toNat_ofNat] at h
  exact .set h

lemma seedOf_of_seeds {v : Option Text} {seed : Option UInt64} (h : Seeds v seed) :
    seedOf v = .ok seed := by
  cases h with
  | unset => rfl
  | set hgives =>
    rw [seedOf, number?_eq_some_iff.mpr hgives]
    exact congrArg (fun s => Except.ok (some s)) UInt64.ofNat_toNat

lemma limitOf_of_limits {v : Option Text} {limit : Nat} (h : Limits v limit) :
    limitOf v = .ok limit := by
  cases h with
  | unset => rfl
  | set hgives hpos =>
    obtain ⟨limit, rfl⟩ := Nat.exists_eq_succ_of_ne_zero hpos.ne'
    rw [limitOf, number?_eq_some_iff.mpr hgives]
    rfl

lemma seedOf_of_not_gives {given : Text} (h : ∀ n, ¬ Gives given n) :
    seedOf (some given) = .error (.seed given) := by
  cases hn : number? given with
  | none => rw [seedOf, hn]
  | some n => exact absurd (number?_eq_some_iff.mp hn) (h n)

lemma limitOf_of_not_gives {given : Text} (h : ∀ n, 0 < n → ¬ Gives given n) :
    limitOf (some given) = .error (.limit given) := by
  cases hn : number? given with
  | none => rw [limitOf, hn]
  | some n =>
    cases n with
    | zero =>
      rw [limitOf, hn]
      rfl
    | succ n => exact absurd (number?_eq_some_iff.mp hn) (h _ n.succ_pos)

lemma exists_seeds_iff {v : Option Text} :
    (∃ seed, Seeds v seed) ↔ ∀ given ∈ v, ∃ n, Gives given n := by
  constructor
  · rintro ⟨_, _ | hgives⟩ given hg
    · cases hg
    · cases hg
      exact ⟨_, hgives⟩
  · intro h
    cases v with
    | none => exact ⟨none, .unset⟩
    | some given =>
      obtain ⟨n, hn⟩ := h given rfl
      exact ⟨_, hn.seeds⟩

lemma exists_limits_iff {v : Option Text} :
    (∃ limit, Limits v limit) ↔ ∀ given ∈ v, ∃ n, 0 < n ∧ Gives given n := by
  constructor
  · rintro ⟨_, _ | ⟨hgives, hpos⟩⟩ given hg
    · cases hg
    · cases hg
      exact ⟨_, hpos, hgives⟩
  · intro h
    cases v with
    | none => exact ⟨defaultLimit, .unset⟩
    | some given =>
      obtain ⟨n, hpos, hn⟩ := h given rfl
      exact ⟨n, .set hn hpos⟩

inductive Reads (lookup : Text → Option Text) : Except ConfigError Config → Prop
  | ok {c : Config} : Seeds (lookup seedVariable) c.seed → Limits (lookup limitVariable) c.limit →
      Reads lookup (.ok c)
  | seed {given : Text} : lookup seedVariable = some given → (∀ n, ¬ Gives given n) →
      Reads lookup (.error (.seed given))
  | limit {seed : Option UInt64} {given : Text} : Seeds (lookup seedVariable) seed →
      lookup limitVariable = some given → (∀ n, 0 < n → ¬ Gives given n) →
      Reads lookup (.error (.limit given))

variable {lookup : Text → Option Text}

lemma Reads.ofLookup_eq {outcome : Except ConfigError Config} (h : Reads lookup outcome) :
    ofLookup lookup = outcome := by
  cases h with
  | ok hs hl =>
    rw [ofLookup, seedOf_of_seeds hs, limitOf_of_limits hl]
    rfl
  | seed hg hn =>
    rw [ofLookup, hg, seedOf_of_not_gives hn]
    rfl
  | limit hs hg hn =>
    rw [ofLookup, seedOf_of_seeds hs, hg, limitOf_of_not_gives hn]
    rfl

lemma exists_reads (lookup : Text → Option Text) : ∃ outcome, Reads lookup outcome := by
  by_cases hs : ∃ seed, Seeds (lookup seedVariable) seed
  · obtain ⟨seed, hs⟩ := hs
    by_cases hl : ∃ limit, Limits (lookup limitVariable) limit
    · obtain ⟨limit, hl⟩ := hl
      exact ⟨.ok ⟨seed, limit⟩, .ok hs hl⟩
    · rw [exists_limits_iff] at hl
      push Not at hl
      obtain ⟨given, hg, hn⟩ := hl
      exact ⟨_, .limit hs hg hn⟩
  · rw [exists_seeds_iff] at hs
    push Not at hs
    obtain ⟨given, hg, hn⟩ := hs
    exact ⟨_, .seed hg hn⟩

lemma ofLookup_eq_iff {outcome : Except ConfigError Config} :
    ofLookup lookup = outcome ↔ Reads lookup outcome := by
  constructor
  · -- an outcome is read off every environment, and no other one is given
    rintro rfl
    obtain ⟨outcome, h⟩ := exists_reads lookup
    rwa [h.ofLookup_eq]
  · exact Reads.ofLookup_eq

lemma exists_ofLookup_eq_ok_iff : (∃ c, ofLookup lookup = .ok c) ↔
    (∀ given ∈ lookup seedVariable, ∃ n, Gives given n) ∧
      ∀ given ∈ lookup limitVariable, ∃ n, 0 < n ∧ Gives given n := by
  rw [← exists_seeds_iff, ← exists_limits_iff]
  constructor
  · rintro ⟨c, hc⟩
    cases ofLookup_eq_iff.mp hc with
    | ok hs hl => exact ⟨⟨_, hs⟩, ⟨_, hl⟩⟩
  · rintro ⟨⟨seed, hs⟩, ⟨limit, hl⟩⟩
    exact ⟨⟨seed, limit⟩, Reads.ofLookup_eq (.ok hs hl)⟩

lemma gives_padded {before after : Text} (hbefore : ∀ c ∈ before, isBlank c = true)
    (hafter : ∀ c ∈ after, isBlank c = true) (zeros : Nat) {n : Nat} (hn : n < UInt64.size) :
    Gives (before ++ (List.replicate zeros '0' ++ Text.ofNat n) ++ after) n := by
  have hdigits := (isDecimal_ofNat n).zeros zeros
  have h : Gives (before ++ ([] ++ (List.replicate zeros '0' ++ Text.ofNat n)) ++ after) n :=
    .mk hbefore List.mem_cons_self hdigits hafter hn
  rwa [List.nil_append] at h

/-- An environment is read just when each variable that is set gives a number of 64 bits, the limit
one above zero; else the seed is blamed before the limit. The decimal text of a number gives the
number, with any blanks around it and any zeros in front. -/
theorem ofLookup_reads_numbers (lookup : Text → Option Text) :
    ((∃ c, ofLookup lookup = .ok c) ↔
      (∀ given ∈ lookup seedVariable, ∃ n, Gives given n) ∧
        ∀ given ∈ lookup limitVariable, ∃ n, 0 < n ∧ Gives given n) ∧
      (∀ outcome, ofLookup lookup = outcome ↔ Reads lookup outcome) ∧
      ∀ (before after : Text) (zeros n : Nat), (∀ c ∈ before ++ after, isBlank c = true) →
        n < UInt64.size →
        let given := before ++ (List.replicate zeros '0' ++ Text.ofNat n) ++ after
        (∀ limit, lookup seedVariable = some given → Limits (lookup limitVariable) limit →
          ofLookup lookup = .ok ⟨some (.ofNat n), limit⟩) ∧
        ∀ seed, Seeds (lookup seedVariable) seed → lookup limitVariable = some given → 0 < n →
          ofLookup lookup = .ok ⟨seed, n⟩ := by
  refine ⟨exists_ofLookup_eq_ok_iff, fun _ => ofLookup_eq_iff, ?_⟩
  intro before after zeros n hblank hn given
  obtain ⟨hbefore, hafter⟩ := List.forall_mem_append.mp hblank
  have hgives : Gives given n := gives_padded hbefore hafter zeros hn
  constructor
  · intro limit hs hl
    exact Reads.ofLookup_eq (.ok (hs ▸ hgives.seeds) hl)
  · intro seed hs hl hpos
    exact Reads.ofLookup_eq (.ok hs (hl ▸ .set hgives hpos))

theorem ofLookup_reads_numbers_padded :
    let lookup : Text → Option Text :=
      fun name => if name = seedVariable then some "\t007\u3000" else some "+4096"
    (∀ c ∈ ['\t'] ++ ['\u3000'], isBlank c = true) ∧ 7 < UInt64.size ∧
      lookup seedVariable =
        some (['\t'] ++ (List.replicate 2 '0' ++ Text.ofNat 7) ++ ['\u3000']) ∧
      Limits (lookup limitVariable) 4096 ∧ ofLookup lookup = .ok ⟨some 7, 4096⟩ := by
  intro lookup
  have hblank : ∀ c ∈ ['\t'] ++ ['\u3000'], isBlank c = true := by simp [isBlank]
  have hn : 7 < UInt64.size := by decide
  have hseed : lookup seedVariable =
      some (['\t'] ++ (List.replicate 2 '0' ++ Text.ofNat 7) ++ ['\u3000']) := by cbv
  have hlimit : Limits (lookup limitVariable) 4096 :=
    .set (number?_eq_some_iff.mp (by decide)) (by decide)
  obtain ⟨_, _, hpadded⟩ := ofLookup_reads_numbers lookup
  exact ⟨hblank, hn, hseed, hlimit, (hpadded _ _ 2 7 hblank hn).1 4096 hseed hlimit⟩

end TemplateServer.Config
