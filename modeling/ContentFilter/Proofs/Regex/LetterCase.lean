import ContentFilter.Proofs.Regex.Matching
import ContentFilter.Proofs.Regex.Sets

namespace ContentFilter.Regex

open Unicode

def Look.IsCaseless : Look → Prop
  | word letters _ => letters.IsCaseless
  | _ => True

/-- All sets of the expression hold whole classes. -/
def IsCaseless : Regex → Prop
  | empty => True
  | one chars => chars.IsCaseless
  | look assertion => assertion.IsCaseless
  | seq r s => r.IsCaseless ∧ s.IsCaseless
  | alt r s => r.IsCaseless ∧ s.IsCaseless
  | rep r _ _ _ => r.IsCaseless
  | group _ r => r.IsCaseless

theorem seq_all_caseless (rs : List Regex) (caseless : ∀ r ∈ rs, r.IsCaseless) :
    (seqAll rs).IsCaseless := by
  match rs with
  | [] => trivial
  | [r] => exact caseless r List.mem_cons_self
  | r :: r' :: rest =>
    have tail := seq_all_caseless (r' :: rest) fun s member =>
      caseless s (List.mem_cons_of_mem r member)
    exact ⟨caseless r List.mem_cons_self, tail⟩

theorem alt_all_caseless (rs : List Regex) (caseless : ∀ r ∈ rs, r.IsCaseless) :
    (altAll rs).IsCaseless := by
  match rs with
  | [] => exact CharSet.caseless_compl _ CharSet.caseless_any
  | [r] => exact caseless r List.mem_cons_self
  | r :: r' :: rest =>
    have tail := alt_all_caseless (r' :: rest) fun s member =>
      caseless s (List.mem_cons_of_mem r member)
    exact ⟨caseless r List.mem_cons_self, tail⟩

section folded

variable {t t' : Text} (same : t.map fold = t'.map fold)

include same

theorem folded_getElem (i : Nat) : t[i]?.map fold = t'[i]?.map fold := by
  rw [← List.getElem?_map, same, List.getElem?_map]

theorem folded_before (i : Nat) : (before t i).map fold = (before t' i).map fold := by
  cases i with
  | zero => rfl
  | succ i => exact folded_getElem same i

end folded

section neighbour

variable {a b : Option Char} (same : a.map fold = b.map fold)

include same

theorem none_folded : a.isNone = b.isNone := by
  rw [← Option.isNone_map, same, Option.isNone_map]

theorem has_next_folded (s : CharSet) (caseless : s.IsCaseless) : s.hasNext a = s.hasNext b := by
  cases a with
  | none =>
      cases b with
      | none => rfl
      | some d => cases same
  | some c =>
      cases b with
      | none => cases same
      | some d => exact caseless d c (Option.some.inj same)

theorem sign_folded (sign : Char) (ascii : sign.toNat < 128)
    (other : isAsciiLetter sign = false) : (a == some sign) = (b == some sign) := by
  have next (c : Option Char) : (c == some sign) = (CharSet.single sign).hasNext c := by
    cases c with
    | none => rfl
    | some d =>
        rw [Bool.eq_iff_iff, beq_iff_eq, Option.some.injEq]
        exact (single_has sign d).symm
  rw [next, next, has_next_folded same _ (CharSet.caseless_sign sign ascii other)]

end neighbour

theorem holds_folded (assertion : Look) (caseless : assertion.IsCaseless) {a a' b b' : Option Char}
    (before : a.map fold = a'.map fold) (after : b.map fold = b'.map fold) :
    assertion.holds a b = assertion.holds a' b' := by
  have feed {c d : Option Char} (same : c.map fold = d.map fold) :=
    sign_folded same '\n' (by decide) (by decide)
  have turn {c d : Option Char} (same : c.map fold = d.map fold) :=
    sign_folded same '\r' (by decide) (by decide)
  cases assertion with
  | textStart => exact none_folded before
  | textEnd => exact none_folded after
  | lineStart => rw [Look.holds, Look.holds, none_folded before, feed before]
  | lineEnd => rw [Look.holds, Look.holds, none_folded after, feed after]
  | crlfStart =>
      rw [Look.holds, Look.holds, none_folded before, feed before, turn before, bne, bne,
        feed after]
  | crlfEnd =>
      rw [Look.holds, Look.holds, none_folded after, feed after, turn after, bne, bne,
        turn before]
  | word letters side =>
      rw [Look.holds, Look.holds, has_next_folded before letters caseless,
        has_next_folded after letters caseless]

theorem spans_folded (t t' : Text) (same : t.map fold = t'.map fold) (r : Regex)
    (caseless : r.IsCaseless) (i j : Nat) : Spans t r i j ↔ Spans t' r i j := by
  induction r generalizing i j with
  | empty => rfl
  | one chars =>
      have next := has_next_folded (folded_getElem same i) chars caseless
      have present (u : Text) : (∃ c, u[i]? = some c ∧ chars.has c = true) ↔
          chars.hasNext u[i]? = true := by
        rw [CharSet.hasNext, Option.any_eq_true]
      rw [Spans, Spans, present, present, next]
  | look assertion =>
      rw [Spans, Spans, holds_folded assertion caseless (folded_before same i)
        (folded_getElem same i)]
  | seq r s ihr ihs =>
      simp only [Spans, ihr caseless.1, ihs caseless.2]
  | alt r s ihr ihs =>
      simp only [Spans, ihr caseless.1, ihs caseless.2]
  | rep r least extra greedy ih =>
      have steps : Spans t r = Spans t' r := by
        funext i j
        exact propext (ih caseless i j)
      rw [Spans, Spans, steps]
  | group number r ih => exact ih caseless i j

theorem occurs_in_folded (t t' : Text) (same : t.map fold = t'.map fold) (r : Regex)
    (caseless : r.IsCaseless) : r.occursIn t = r.occursIn t' := by
  have long : t.length = t'.length := by
    rw [← List.length_map, same, List.length_map]
  rw [Bool.eq_iff_iff, occurs_in_iff, occurs_in_iff, OccursIn, OccursIn]
  simp only [spans_folded t t' same r caseless, long]

end ContentFilter.Regex
