import ContentFilter.Proofs.Live.RuleFile

namespace ContentFilter

def Text.IsEnded (text : Text) : Prop := text = [] ∨ text.getLast? = some '\n'

instance (text : Text) : Decidable text.IsEnded := inferInstanceAs (Decidable (_ ∨ _))

namespace LiveFilter

/-- The file has these lines, and whoever reloads it so has their rules after those of other
lists. -/
structure KeepsLines (path : Text) (files : FileTree) (lines : List Text) : Prop where
  read : files.readLines path = .ok lines
  reloads : ∀ (f : LiveFilter) (later : FileTree), f.settings.localRules = path →
    later.read path = files.read path →
      ∃ tally others, (f.reload later).2 = .ok tally ∧
        (f.reload later).1.active.Holds (others ++ lines.filterMap Rule.inLine?)

theorem keeps_lines (path : Text) (files : FileTree) (content : Text)
    (read : files.read path = .ok (Utf8.encode content)) :
    KeepsLines path files content.lines := by
  have decoded : content.lines = linesOf (Utf8.encode content) := by
    rw [linesOf, Utf8.decodeLossy_encode]
  refine ⟨(FileTree.read_lines_ok files path _).mpr ⟨_, read, decoded⟩, ?_⟩
  rintro f later rfl same
  apply reload_holds_own
  rw [FileTree.read_lines_if_any_ok, same]
  exact Or.inl ⟨_, read, decoded⟩

section added

variable (f : LiveFilter) (files : FileTree) (line : Text)

theorem add_rule_stores (content : List UInt8)
    (holds : files.Holds f.settings.localRules content)
    (added : (f.addRule files line).result = .ok true) :
    line.trim ≠ [] ∧
      (∃ rule, Rule.ofLine line.trim = .ok (some rule) ∧
        (f.addRule files line).filter.active = f.active.insert rule) ∧
      (f.addRule files line).files.read f.settings.localRules =
        .ok (content ++ Utf8.encode (Text.unlines [line.trim])) := by
  obtain ⟨after, appended, written⟩ := FileTree.append_line_holds files _ _ holds line.trim
  obtain ⟨some_line, parsed, later, stored, edited⟩ := stored_of_added f files line added
  obtain rfl := (Prod.mk.inj (appended.symm.trans stored)).1
  obtain ⟨rule, found⟩ := Option.isSome_iff_exists.mp parsed
  rw [edited]
  refine ⟨some_line, ⟨rule, (Rule.in_line_eq_some line.trim rule).mp found, ?_⟩, written⟩
  rw [withLine, found, Option.elim_some]

/-- A new rule is in effect at once, and its line is kept with all lines before it if and only if
the text of the file was ended; if it was not, the new line is the end of the last one. -/
theorem added_line_kept_iff (text : Text)
    (holds : files.Holds f.settings.localRules (Utf8.encode text)) (single : '\n' ∉ line)
    (added : (f.addRule files line).result = .ok true) :
    (∃ rule, Rule.ofLine line.trim = .ok (some rule) ∧
      (f.addRule files line).filter.active = f.active.insert rule) ∧
    ∃ lines, KeepsLines f.settings.localRules (f.addRule files line).files lines ∧
      (lines = text.lines ++ [line.trim] ↔ text.IsEnded) ∧
      (¬ text.IsEnded → ∃ first last, text.lines = first ++ [last] ∧
        lines = first ++ [last ++ line.trim]) := by
  obtain ⟨some_line, inEffect, written⟩ := add_rule_stores f files line _ holds added
  have together : Utf8.encode text ++ Utf8.encode (Text.unlines [line.trim]) =
      Utf8.encode (text ++ Text.unlines [line.trim]) := by
    rw [Utf8.encode, Utf8.encode, Utf8.encode, List.flatMap_append]
  rw [together] at written
  have within : '\n' ∉ line.trim := fun member => single (line.trim_within.subset member)
  refine ⟨inEffect, _, keeps_lines _ _ _ written, ?_⟩
  by_cases ended : text.IsEnded
  · have parted := Text.lines_append_line text line.trim ended within line.trim_trimmed
    exact ⟨iff_of_true parted ended, fun unended => absurd ended unended⟩
  · obtain ⟨some_text, unended⟩ := not_or.mp ended
    obtain ⟨first, last, before, after⟩ := Text.lines_append_unended text line.trim some_text
      unended within some_line line.trim_trimmed
    refine ⟨iff_of_false ?_ ended, fun _ => ⟨first, last, before, after⟩⟩
    intro parted
    have longer := congrArg List.length parted
    rw [after, before] at longer
    simp at longer

end added

def ownRules : LiveFilter := { settings := { localRules := "/lists/rules".toList } }

def ruleOf (text : Text) : FileTree := oneFile "lists".toList "rules".toList text

/-- Another rule is added in either case, but it is kept in one of them only, and in the other one
the rule before it is lost as well. -/
theorem rule_joins_unended_line :
    (ruleOf "||a.example^".toList).read "/lists/rules".toList =
        .ok (Utf8.encode "||a.example^".toList) ∧
      (ownRules.addRule (ruleOf "||a.example^".toList) "||b.example^".toList).result = .ok true ∧
      KeepsLines "/lists/rules".toList
        (ownRules.addRule (ruleOf "||a.example^".toList) "||b.example^".toList).files
        ["||a.example^||b.example^".toList] ∧
      (ownRules.addRule (ruleOf "||a.example^\n".toList) "||b.example^".toList).result = .ok true ∧
      KeepsLines "/lists/rules".toList
        (ownRules.addRule (ruleOf "||a.example^\n".toList) "||b.example^".toList).files
        ["||a.example^".toList, "||b.example^".toList] := by
  have unended : (ruleOf "||a.example^".toList).read "/lists/rules".toList =
      .ok (Utf8.encode "||a.example^".toList) := by decide
  have ended : (ruleOf "||a.example^\n".toList).read "/lists/rules".toList =
      .ok (Utf8.encode "||a.example^\n".toList) := by decide
  have joins : (ownRules.addRule (ruleOf "||a.example^".toList) "||b.example^".toList).result =
      .ok true := by decide
  have stays : (ownRules.addRule (ruleOf "||a.example^\n".toList) "||b.example^".toList).result =
      .ok true := by decide
  obtain ⟨-, joined, kept, -, together⟩ := added_line_kept_iff ownRules _ "||b.example^".toList
    "||a.example^".toList (Or.inl unended) (by decide) joins
  obtain ⟨-, parted, both, apart, -⟩ := added_line_kept_iff ownRules _ "||b.example^".toList
    "||a.example^\n".toList (Or.inl ended) (by decide) stays
  obtain ⟨first, last, before, after⟩ := together (by decide)
  have alone : first = [] ∧ last = "||a.example^".toList := by
    have one : [] ++ ["||a.example^".toList] = first ++ [last] := before
    obtain ⟨none_before, same⟩ := List.append_inj' one rfl
    exact ⟨none_before.symm, (List.singleton_inj.mp same).symm⟩
  rw [after, alone.1, alone.2] at kept
  rw [apart.mpr (by decide)] at both
  exact ⟨unended, joins, kept, stays, both⟩

end LiveFilter

end ContentFilter
