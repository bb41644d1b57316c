import ContentFilter.Regex.Matcher
import ContentFilter.Regex.Reader
import ContentFilter.Regex.Reader.Escape
import ContentFilter.Regex.Room
/-!
Filter patterns. A text between slashes is a regular expression, any other a wildcard filter: `*`
stands for any run of characters, `^` for a separator or the end of the URL, bars at the ends anchor
the filter, and every other character stands for itself in either case. `Wildcard.expression`
writes a filter as a regular expression, `Wildcard.Accepts` says which URLs it is found in.
-/
namespace ContentFilter

inductive Anchor
  | anywhere
  | urlStart
  /-- Right after the scheme, or after a dot of what follows it up to the path. -/
  | domain
  deriving DecidableEq, Repr

inductive Token
  | anyRun
  | separator
  | char (c : Char)
  deriving DecidableEq, Repr

structure Wildcard where
  anchor : Anchor
  body : List Token
  atEnd : Bool
  deriving DecidableEq, Repr

namespace Token

def ofChar : Char → Token
  | '*' => anyRun
  | '^' => separator
  | c => char c

end Token

namespace Wildcard

def anchorOf : Text → Anchor × Text
  | '|' :: '|' :: r => (.domain, r)
  | '|' :: r => (.urlStart, r)
  | s => (.anywhere, s)

def ofText (s : Text) : Wildcard :=
  let (anchor, rest) := anchorOf s
  match rest.stripLast? '|' with
  | some body => { anchor, body := body.map .ofChar, atEnd := true }
  | none => { anchor, body := rest.map .ofChar, atEnd := false }

def domainExpression : Text := "^[a-zA-Z][a-zA-Z0-9+.\\-]*://(?:[^/?#]*\\.)?".toList

def anchorExpression : Anchor → Text
  | .anywhere => []
  | .urlStart => ['^']
  | .domain => domainExpression

def separatorExpression : Text := "(?:[^\\w\\-.%]|$)".toList

def escaped (c : Char) : Text := if Regex.Reader.isMeta c then ['\\', c] else [c]

/-- The tokens, where `afterRun` tells that a star came before them. Stars that follow one another
do no more than one of them. -/
def bodyExpression (afterRun : Bool) : List Token → Text
  | [] => []
  | .anyRun :: rest => (if afterRun then [] else ['.', '*']) ++ bodyExpression true rest
  | .separator :: rest => separatorExpression ++ bodyExpression false rest
  | .char c :: rest => escaped c ++ bodyExpression false rest

def expression (w : Wildcard) : Text :=
  anchorExpression w.anchor ++ bodyExpression false w.body ++ if w.atEnd then ['$'] else []

def isSeparator (c : Char) : Bool := !(Unicode.wordRanges.has c || ['-', '.', '%'].contains c)

def Reads (t : Text) : List Token → Nat → Nat → Prop
  | [], i, j => i = j
  | .anyRun :: rest, i, j =>
    ∃ k, i ≤ k ∧ (∀ n, i ≤ n → n < k → ∃ c, t[n]? = some c ∧ c ≠ '\n') ∧ Reads t rest k j
  | .separator :: rest, i, j =>
    (∃ c, t[i]? = some c ∧ isSeparator c = true ∧ Reads t rest (i + 1) j) ∨
      (i = t.length ∧ Reads t rest i j)
  | .char a :: rest, i, j => ∃ c, t[i]? = some c ∧ a ∈ Unicode.sameCase c ∧ Reads t rest (i + 1) j

def SchemeEnds (t : Text) (i : Nat) : Prop :=
  ∃ (c : Char) (scheme rest : Text), t = c :: scheme ++ ':' :: '/' :: '/' :: rest ∧
    i = scheme.length + 4 ∧ (∃ l ∈ Unicode.sameCase c, isAsciiLetter l = true) ∧
    ∀ d ∈ scheme, ∃ l ∈ Unicode.sameCase d,
      isAsciiLetter l = true ∨ isAsciiDigit l = true ∨ l ∈ ['+', '.', '-']

def Anchored (t : Text) : Anchor → Nat → Prop
  | .anywhere, i => i ≤ t.length
  | .urlStart, i => i = 0
  | .domain, i =>
    ∃ s, SchemeEnds t s ∧ (i = s ∨ ∃ k, s ≤ k ∧ i = k + 1 ∧ t[k]? = some '.' ∧
      ∀ n, s ≤ n → n < k → ∃ c, t[n]? = some c ∧ c ∉ ['/', '?', '#'])

def Accepts (w : Wildcard) (t : Text) : Prop :=
  ∃ i j, Anchored t w.anchor i ∧ Reads t w.body i j ∧ (w.atEnd = true → j = t.length)

end Wildcard

structure Pattern where
  regex : Regex
  deriving DecidableEq, Repr

inductive PatternError
  | malformed
  | tooLarge
  deriving DecidableEq, Repr

namespace Pattern

def expression? : Text → Option Text
  | '/' :: r => (Text.stripLast? '/' r).filter (!·.isEmpty)
  | _ => none

def regex? (s : Text) : Option Regex :=
  Regex.read? ((expression? s).getD (Wildcard.ofText s).expression)

def compile (s : Text) : Except PatternError Pattern :=
  match regex? s with
  | none => .error .malformed
  | some regex => if Regex.Room.fits regex then .ok ⟨regex⟩ else .error .tooLarge

def occursIn (p : Pattern) (url : Text) : Bool := p.regex.occursIn url

end Pattern

end ContentFilter
