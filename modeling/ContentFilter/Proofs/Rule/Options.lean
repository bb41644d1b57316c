import ContentFilter.Proofs.Host.Coverage
import ContentFilter.Rule.Line

namespace ContentFilter

open Text

namespace Party

def other : Party → Party
  | first => third
  | third => first

end Party

namespace Parties

def only : Party → Parties
  | .first => ⟨true, false⟩
  | .third => ⟨false, true⟩

theorem only_has (asked p : Party) : (only asked).has p = true ↔ p = asked := by
  cases asked <;> cases p <;> decide

theorem only_others (asked : Party) : (only asked).others = only asked.other := by
  cases asked <;> rfl

end Parties

namespace Host

theorem normalize_trim (written : Text) : normalize? written.trim = normalize? written := by
  rw [normalize?, normalize?, trim_trim]

def bare (written : Text) : Text := (written.trim.dropAroundWhile (· == '.')).asciiLower

theorem normalize_eq_bare (written domain : Text) (found : normalize? written = some domain) :
    domain = bare written := by
  obtain ⟨name, stripped, -, -, -, lowered⟩ := (normalize_eq_some_iff written domain).mp found
  rw [bare, stripped, lowered]

end Host

namespace Sites

def named? (token : Text) : Option Text :=
  match token.trim with
  | '~' :: _ => none
  | name => Host.normalize? name

def excepted? (token : Text) : Option Text :=
  match token.trim with
  | '~' :: name => Host.normalize? name
  | _ => none

/-- The token is there to name a domain, whether or not it is the name of one. -/
def IsNaming (token : Text) : Prop := token.trim ≠ [] ∧ token.trim.head? ≠ some '~'

instance (token : Text) : Decidable (IsNaming token) := inferInstanceAs (Decidable (_ ∧ _))

theorem named_eq_some_iff (token domain : Text) :
    named? token = some domain ↔ IsNaming token ∧ Host.normalize? token = some domain := by
  rw [named?, IsNaming, ← Host.normalize_trim]
  split
  · rename_i name tilde
    simp [tilde]
  · rename_i unmarked
    apply (and_iff_right_of_imp _).symm
    intro found
    refine ⟨?_, ?_⟩
    · intro blank
      rw [blank] at found
      cases found
    · intro head
      obtain ⟨name, tilde⟩ := List.head?_eq_some_iff.mp head
      exact unmarked name tilde

theorem add_written_eq (sites : Sites) (token : Text) :
    sites.addWritten token =
      { included := sites.included ++ (named? token).toList
        excluded := sites.excluded ++ (excepted? token).toList } := by
  rw [addWritten, named?, excepted?]
  split
  · rename_i blank
    have nothing : Host.normalize? [] = none := rfl
    simp [blank, nothing]
  · rename_i name tilde
    cases found : Host.normalize? name <;> simp [tilde, found]
  · rename_i unmarked
    cases found : Host.normalize? token.trim <;> simp [found]

theorem fold_written (tokens : List Text) (sites : Sites) :
    tokens.foldl addWritten sites =
      { included := sites.included ++ tokens.filterMap named?
        excluded := sites.excluded ++ tokens.filterMap excepted? } := by
  induction tokens generalizing sites with
  | nil => simp
  | cons token tokens ih =>
      rw [List.foldl_cons, ih, add_written_eq, List.filterMap_cons, List.filterMap_cons]
      cases named? token <;> cases excepted? token <;> simp

theorem of_text_listed (value : Text) :
    (ofText? value).getD {} =
      { included := (value.splitAll '|').filterMap named?
        excluded := (value.splitAll '|').filterMap excepted? } := by
  rw [ofText?, fold_written]
  dsimp only [List.nil_append]
  split
  · rename_i nothing
    rw [Bool.and_eq_true, List.isEmpty_iff, List.isEmpty_iff] at nothing
    rw [nothing.1, nothing.2]
    rfl
  · rfl

theorem all_allows (sites : Option Sites) (host : Text) :
    sites.all (·.allows host) = (sites.getD {}).allows host := by
  cases sites with
  | none => simp [allows]
  | some sites => rfl

end Sites

namespace Options

def plain (option : Text) : Text := option.trim.asciiLower

def domains? (option : Text) : Option Text := (plain option).stripPrefix? "domain=".toList

def name? (option : Text) : Option (Bool × Text) :=
  if (domains? option).isSome then none
  else match plain option with
    | '~' :: name => some (true, name)
    | name => some (false, name)

def namesResource (option : Text) : Bool := (name? option).any (resourceTypes.contains ·.2)

def partyNamed? (name : Text) : Option Party :=
  if ["third-party".toList, "thirdparty".toList, "3p".toList].contains name then some .third
  else if ["first-party".toList, "firstparty".toList, "1p".toList].contains name then some .first
  else none

def party? (option : Text) : Option Party :=
  (name? option).bind fun (negated, name) =>
    (partyNamed? name).map fun party => if negated then party.other else party

def lastParty? (options : List Text) : Option Party := (options.filterMap party?).getLast?

def tokens (options : List Text) : List Text :=
  (options.filterMap domains?).flatMap (splitAll '|')

theorem parties_eq (name : Text) : parties? name = (partyNamed? name).map .only := by
  rw [parties?, partyNamed?]
  split
  · rfl
  · split <;> rfl

theorem resource_has_no_party (name : Text) (listed : resourceTypes.contains name = true) :
    partyNamed? name = none := by
  have checked : resourceTypes.all (partyNamed? · == none) = true := by decide
  exact eq_of_beq (List.all_eq_true.mp checked name (List.contains_iff_mem.mp listed))

section add

variable (o : Options)

theorem add_domains (option value : Text) (given : domains? option = some value) :
    o.add option = o.addSites (Sites.ofText? value) := by
  rw [add]
  split
  · rename_i other found
    rw [Option.some.inj (given.symm.trans found)]
  · rename_i found
    cases given.symm.trans found

theorem add_name (option name : Text) (negated : Bool)
    (given : name? option = some (negated, name)) : o.add option = o.addNamed negated name := by
  rw [name?] at given
  split at given
  · cases given
  · rename_i no_domains
    rw [Option.not_isSome_iff_eq_none] at no_domains
    rw [add]
    split
    · rename_i value found
      cases no_domains.symm.trans found
    · change (match plain option with
        | '~' :: name => o.addNamed true name
        | name => o.addNamed false name) = _
      split at given <;> (obtain ⟨rfl, rfl⟩ := Prod.mk.inj (Option.some.inj given); rfl)

theorem name_or_domains (option : Text) :
    (∃ value, domains? option = some value ∧ name? option = none) ∨
      ∃ negated name, domains? option = none ∧ name? option = some (negated, name) := by
  rw [name?]
  cases domains? option with
  | some value => exact Or.inl ⟨value, rfl, rfl⟩
  | none =>
      refine Or.inr ?_
      rw [if_neg (by simp)]
      split <;> exact ⟨_, _, rfl, rfl⟩

theorem add_sites_eq (more : Option Sites) :
    (o.addSites more).resource = o.resource ∧ (o.addSites more).parties = o.parties ∧
      (o.addSites more).sites.getD {} = (o.sites.getD {}).append (more.getD {}) := by
  cases more with
  | none => cases known : o.sites <;> simp [addSites, known, Sites.append]
  | some sites => cases known : o.sites <;> simp [addSites, known, Sites.append]

theorem add_named_eq (negated : Bool) (name : Text) :
    (o.addNamed negated name).resource = (o.resource || resourceTypes.contains name) ∧
      (o.addNamed negated name).parties =
        ((partyNamed? name).map fun party =>
          Parties.only (if negated then party.other else party)).or o.parties ∧
      (o.addNamed negated name).sites = o.sites := by
  rw [addNamed, parties_eq]
  cases named : partyNamed? name with
  | some party =>
      have other : resourceTypes.contains name = false := by
        rw [Bool.eq_false_iff]
        intro listed
        cases named.symm.trans (resource_has_no_party name listed)
      rw [other, Bool.or_false]
      cases negated <;> simp [Parties.only_others]
  | none =>
      dsimp only [Option.map_none]
      split
      · rename_i listed
        rw [listed, Bool.or_true]
        simp
      · rename_i unlisted
        rw [Bool.not_eq_true] at unlisted
        rw [unlisted, Bool.or_false]
        simp

theorem add_eq (option : Text) :
    (o.add option).resource = (o.resource || namesResource option) ∧
      (o.add option).parties = ((party? option).map .only).or o.parties ∧
      (o.add option).sites.getD {} = (o.sites.getD {}).append
        { included := (tokens [option]).filterMap Sites.named?
          excluded := (tokens [option]).filterMap Sites.excepted? } := by
  rw [namesResource, party?, tokens, List.filterMap_cons]
  rcases name_or_domains option with ⟨value, given, unnamed⟩ | ⟨negated, name, none_given, named⟩
  · obtain ⟨resource, parties, sites⟩ := o.add_sites_eq (Sites.ofText? value)
    rw [o.add_domains option value given, resource, parties, sites, unnamed, given,
      Sites.of_text_listed]
    simp
  · obtain ⟨resource, parties, sites⟩ := o.add_named_eq negated name
    rw [o.add_name option name negated named, resource, parties, sites, named, none_given]
    simp [Sites.append, Function.comp_def]

end add

theorem fold_add (options : List Text) (o : Options) :
    (options.foldl add o).resource = (o.resource || options.any namesResource) ∧
      (options.foldl add o).parties = ((lastParty? options).map .only).or o.parties ∧
      (options.foldl add o).sites.getD {} = (o.sites.getD {}).append
        { included := (tokens options).filterMap Sites.named?
          excluded := (tokens options).filterMap Sites.excepted? } := by
  induction options generalizing o with
  | nil => simp [lastParty?, tokens, Sites.append]
  | cons option options ih =>
      obtain ⟨resource, parties, sites⟩ := ih (o.add option)
      obtain ⟨resource', parties', sites'⟩ := o.add_eq option
      have parted : tokens (option :: options) = tokens [option] ++ tokens options := by
        rw [tokens, tokens, tokens, ← List.flatMap_append, ← List.filterMap_append,
          List.singleton_append]
      have last : lastParty? (option :: options) = (lastParty? options).or (party? option) := by
        rw [lastParty?, lastParty?, List.filterMap_cons]
        cases party? option with
        | none => simp
        | some party =>
            cases later : (options.filterMap party?).getLast? <;> simp [List.getLast?_cons, later]
      rw [List.foldl_cons, resource, parties, sites, resource', parties', sites', parted, last]
      refine ⟨by simp [Bool.or_assoc], ?_, by simp [Sites.append]⟩
      cases lastParty? options <;> simp

def Names (options : List Text) (domain : Text) : Prop :=
  ∃ token ∈ tokens options, Sites.named? token = some domain

def Excepts (options : List Text) (domain : Text) : Prop :=
  ∃ token ∈ tokens options, Sites.excepted? token = some domain

/-- The host is within a domain that is named, if any is, and within none that is excepted. -/
def AllowsHost (within : Text → Text → Prop) (options : List Text) (host : Text) : Prop :=
  ((∃ domain, Names options domain) → ∃ domain, Names options domain ∧ within host domain) ∧
    ∀ domain, Excepts options domain → ¬ within host domain

def AllowsParty (options : List Text) (party : Party) : Prop :=
  ∀ asked, lastParty? options = some asked → party = asked

theorem named_ne_nil (token domain : Text) (found : Sites.named? token = some domain) :
    domain ≠ [] := by
  rw [Sites.named?] at found
  split at found
  · cases found
  · exact Host.normalize_ne_nil _ domain found

theorem excepted_ne_nil (token domain : Text) (found : Sites.excepted? token = some domain) :
    domain ≠ [] := by
  rw [Sites.excepted?] at found
  split at found
  · exact Host.normalize_ne_nil _ domain found
  · cases found

theorem allows_host_iff (options : List Text) (host : Text) :
    (options.foldl add {}).sites.all (·.allows host) = true ↔
      AllowsHost Host.IsWithin options host.asciiLower := by
  obtain ⟨-, -, sites⟩ := fold_add options {}
  have some_domains : ∀ domain ∈ (tokens options).filterMap Sites.named? ++
      (tokens options).filterMap Sites.excepted?, domain ≠ [] := by
    intro domain member
    rcases List.mem_append.mp member with named | excepted
    · obtain ⟨token, -, found⟩ := List.mem_filterMap.mp named
      exact named_ne_nil token domain found
    · obtain ⟨token, -, found⟩ := List.mem_filterMap.mp excepted
      exact excepted_ne_nil token domain found
  have some_named : (tokens options).filterMap Sites.named? = [] ↔
      ¬ ∃ domain, Names options domain := by
    rw [List.eq_nil_iff_forall_not_mem, not_exists]
    simp only [List.mem_filterMap, Names]
  rw [Sites.all_allows, sites]
  simp only [Option.getD_none, Sites.append, List.nil_append]
  rw [Sites.allows_iff_within _ _ some_domains, some_named, ← imp_iff_not_or]
  simp only [List.mem_filterMap, AllowsHost, Names, Excepts]

theorem allows_party_iff (options : List Text) (party : Party) :
    (∀ parties ∈ (options.foldl add {}).parties, parties.has party = true) ↔
      AllowsParty options party := by
  rw [(fold_add options {}).2.1, AllowsParty]
  simp [Parties.only_has]

/-- Some option names a type of resource and none asks for a party. -/
def AsksUnknown (options : List Text) : Prop :=
  (∃ o ∈ options, namesResource o = true) ∧ ∀ o ∈ options, party? o = none

instance (options : List Text) : Decidable (AsksUnknown options) :=
  inferInstanceAs (Decidable (_ ∧ _))

theorem asks_unknown_iff (options : List Text) :
    (options.foldl add {}).resource = true ∧ (options.foldl add {}).parties = none ↔
      AsksUnknown options := by
  obtain ⟨resource, parties, -⟩ := fold_add options {}
  rw [resource, parties]
  simp [AsksUnknown, lastParty?]

end Options

end ContentFilter
