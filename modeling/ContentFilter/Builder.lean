import ContentFilter.RuleSet
import ContentFilter.Rule.Line

namespace ContentFilter

structure Tally where
  lines : Nat := 0
  /-- Lines without a rule. -/
  skipped : Nat := 0
  /-- Lines that were rejected. -/
  dropped : Nat := 0
  allowedHosts : Nat := 0
  allowRules : Nat := 0
  blockedHosts : Nat := 0
  blockRules : Nat := 0
  /-- Pattern rules, already counted above, that match nothing. -/
  nullRules : Nat := 0
  hidingRules : Nat := 0
  deriving DecidableEq, Repr

namespace Tally

def rules (t : Tally) : Nat :=
  t.allowedHosts + t.allowRules + t.blockedHosts + t.blockRules + t.hidingRules

def countRule (t : Tally) (rule : Rule) : Tally :=
  let t := { t with nullRules := t.nullRules + (if rule.isNull then 1 else 0) }
  match rule with
  | .host .allow _ => { t with allowedHosts := t.allowedHosts + 1 }
  | .host .block _ => { t with blockedHosts := t.blockedHosts + 1 }
  | .pattern .allow _ => { t with allowRules := t.allowRules + 1 }
  | .pattern .block _ => { t with blockRules := t.blockRules + 1 }
  | .hide _ => { t with hidingRules := t.hidingRules + 1 }

instance : Add Tally where
  add t u :=
    { lines := t.lines + u.lines
      skipped := t.skipped + u.skipped
      dropped := t.dropped + u.dropped
      allowedHosts := t.allowedHosts + u.allowedHosts
      allowRules := t.allowRules + u.allowRules
      blockedHosts := t.blockedHosts + u.blockedHosts
      blockRules := t.blockRules + u.blockRules
      nullRules := t.nullRules + u.nullRules
      hidingRules := t.hidingRules + u.hidingRules }

end Tally

structure Builder where
  set : RuleSet := {}
  tally : Tally := {}
  deriving DecidableEq, Repr

namespace Builder

/-- Goes on from a rule set, with a tally of the lines to come alone. -/
def ofSet (set : RuleSet) : Builder := { set }

def addLine (b : Builder) (line : Text) : Builder :=
  let tally := { b.tally with lines := b.tally.lines + 1 }
  match Rule.ofLine line with
  | .ok (some rule) => { set := b.set.insert rule, tally := tally.countRule rule }
  | .ok none => { b with tally := { tally with skipped := tally.skipped + 1 } }
  | .error _ => { b with tally := { tally with dropped := tally.dropped + 1 } }

def addLines (b : Builder) (lines : List Text) : Builder := lines.foldl addLine b

def addText (b : Builder) (text : Text) : Builder := b.addLines text.lines

end Builder

def Rule.isInLine (line : Text) : Bool :=
  match Rule.ofLine line with
  | .ok (some _) => true
  | _ => false

def RuleSet.ofList (text : Text) : Builder := Builder.addText {} text

end ContentFilter
