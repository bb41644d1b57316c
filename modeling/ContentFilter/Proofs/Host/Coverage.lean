import ContentFilter.Proofs.Hiding.Exceptions
import ContentFilter.Proofs.Host.Names
import ContentFilter.Settings.Basic
import Mathlib.Data.List.TFAE
import Mathlib.Tactic.TFAE

namespace ContentFilter

open Text

theorem Host.mem_suffixes_small (host domain : Text) (among : domain ∈ suffixes host.asciiLower) :
    domain.asciiLower = domain := by
  have chars : domain ⊆ host.asciiLower := by
    rcases ((mem_suffixes _ _).mp among).2 with rfl | ⟨-, below⟩
    · exact List.Subset.refl _
    · exact fun c member => below.subset (List.mem_cons_of_mem _ member)
  have small (c : Char) (member : c ∈ domain) : c.toLower = c := by
    obtain ⟨d, -, rfl⟩ := List.mem_map.mp (chars member)
    simp
  rw [asciiLower, List.map_congr_left small]
  exact List.map_id domain

namespace Sites

theorem allows_iff_within (sites : Sites) (host : Text)
    (some_domains : ∀ domain ∈ sites.included ++ sites.excluded, domain ≠ []) :
    sites.allows host = true ↔
      (sites.included = [] ∨ ∃ domain ∈ sites.included, Host.IsWithin host.asciiLower domain) ∧
        ∀ domain ∈ sites.excluded, ¬ Host.IsWithin host.asciiLower domain := by
  have listed (domains : List Text) (within : domains ⊆ sites.included ++ sites.excluded) :
      (Host.suffixes host.asciiLower).any domains.contains = true ↔
        ∃ domain ∈ domains, Host.IsWithin host.asciiLower domain := by
    have among (domain : Text) (member : domain ∈ domains) :=
      Host.mem_suffixes_within host.asciiLower domain (some_domains domain (within member))
    simp only [List.any_eq_true, List.contains_iff_mem]
    constructor
    · intro ⟨domain, found, member⟩
      exact ⟨domain, member, (among domain member).mp found⟩
    · intro ⟨domain, member, found⟩
      exact ⟨domain, (among domain member).mpr found, member⟩
  rw [allows, Bool.and_eq_true, Bool.or_eq_true, Bool.not_eq_true', Bool.eq_false_iff, Ne,
    listed _ (List.subset_append_left _ _), listed _ (List.subset_append_right _ _),
    List.isEmpty_iff]
  simp only [not_exists, not_and]

theorem allows_iff (sites : Sites) (host : Text)
    (dotted : ∀ domain ∈ sites.included ++ sites.excluded, '.' ∈ domain) :
    sites.allows host = true ↔
      (sites.included = [] ∨ ∃ domain ∈ sites.included, Host.IsUnder host.asciiLower domain) ∧
        ∀ domain ∈ sites.excluded, ¬ Host.IsUnder host.asciiLower domain := by
  have included (domain : Text) (member : domain ∈ sites.included) :=
    Host.is_within_dotted host.asciiLower domain (dotted _ (List.mem_append_left _ member))
  have excluded (domain : Text) (member : domain ∈ sites.excluded) :=
    Host.is_within_dotted host.asciiLower domain (dotted _ (List.mem_append_right _ member))
  rw [allows_iff_within _ _ fun domain member => List.ne_nil_of_mem (dotted domain member)]
  refine and_congr (or_congr_right (exists_congr fun domain => and_congr_right (included domain)))
    (forall₂_congr fun domain member => not_congr (excluded domain member))

end Sites

theorem Settings.is_trusted_iff (s : Settings) (host : Text)
    (dotted : ∀ domain ∈ s.trustedHosts, '.' ∈ domain) :
    s.isTrusted host = true ↔
      ∃ domain ∈ s.trustedHosts, Host.IsUnder host.asciiLower domain.asciiLower := by
  have lowered (domain : Text) (member : domain ∈ s.trustedHosts) : '.' ∈ domain.asciiLower := by
    have dot : Char.toLower '.' = '.' := by decide
    exact dot ▸ List.mem_map_of_mem (dotted domain member)
  simp only [isTrusted, List.any_eq_true, equalIgnoringCase, beq_iff_eq]
  constructor
  · intro found
    obtain ⟨suffix, among, domain, member, same⟩ := found
    rw [Host.mem_suffixes_small host suffix among] at same
    exact ⟨domain, member, (Host.mem_suffixes_dotted _ _ (lowered domain member)).mp (same ▸ among)⟩
  · intro found
    obtain ⟨domain, member, under⟩ := found
    have among := (Host.mem_suffixes_dotted _ _ (lowered domain member)).mpr under
    exact ⟨_, among, domain, member, (ascii_lower_again domain).symm⟩

namespace HidingStore

theorem hidden_alone_iff (domain selector host : Text) (dotted : '.' ∈ domain) :
    selector ∈ (({} : HidingStore).addPerDomain domain selector).selectorsFor host ↔
      Host.IsUnder (Host.lookupForm host) domain := by
  rw [mem_selectors_for, ← Host.mem_chain_dotted _ _ dotted]
  simp [addPerDomain]

end HidingStore

/-- Whatever lies under a domain for one purpose lies under it for all of them: a registered host,
the site of a rule, a trusted host, a host to hide a selector on. -/
theorem Host.purposes_agree (domain host selector : Text) (s : Settings)
    (canonical : normalize? domain = some domain) (dotted : '.' ∈ domain)
    (rootless : host.getLast? ≠ some '.') :
    List.TFAE [
      IsUnder host.asciiLower domain,
      (Registry.withSubdomains.insert domain).covers host = true,
      ({ included := [domain], excluded := [] } : Sites).allows host = true,
      ({ s with trustedHosts := [domain] } : Settings).isTrusted host = true,
      selector ∈ (({} : HidingStore).addPerDomain domain selector).selectorsFor host] := by
  have lookup := lookup_form_rootless host rootless
  have small : domain.asciiLower = domain :=
    lower_small_name domain (small_name_of_normalize domain domain canonical)
  tfae_have 1 ↔ 2 := by
    rw [Registry.covers_alone domain dotted, lookup]
  tfae_have 1 ↔ 3 := by
    rw [Sites.allows_iff _ _ (by simpa using dotted)]
    simp
  tfae_have 1 ↔ 4 := by
    rw [Settings.is_trusted_iff _ _ (by simpa using dotted)]
    simp [small]
  tfae_have 1 ↔ 5 := by
    rw [HidingStore.hidden_alone_iff domain selector host dotted, lookup]
  tfae_finish

/-- An empty label and a letter beyond ASCII are labels like others, and capitals are lowered. -/
theorem Host.odd_labels_are_under :
    normalize? "a-1.example".toList = some "a-1.example".toList ∧
      ({ included := ["a-1.example".toList], excluded := [] } : Sites).allows
        ".É..A-1.Example".toList = true ∧
      ".promo".toList ∈ (({} : HidingStore).addPerDomain "a-1.example".toList
        ".promo".toList).selectorsFor ".É..A-1.Example".toList ∧
      ({ trustedHosts := ["a-1.example".toList] } : Settings).isTrusted
        "xa-1.example".toList = false := by
  have odd := purposes_agree "a-1.example".toList ".É..A-1.Example".toList ".promo".toList {}
    (by decide) (by decide) (by decide)
  have beside := purposes_agree "a-1.example".toList "xa-1.example".toList ".promo".toList {}
    (by decide) (by decide) (by decide)
  have under : IsUnder (asciiLower ".É..A-1.Example".toList) "a-1.example".toList := by decide
  refine ⟨by decide, (odd.out 0 2).mp under, (odd.out 0 4).mp under, ?_⟩
  rw [Bool.eq_false_iff]
  exact mt (beside.out 0 3).mpr (by decide)

end ContentFilter
