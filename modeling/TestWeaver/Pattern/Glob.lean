import TestWeaver.Pattern.Class

/-!
Patterns for names, as shells have them: `*`, `?` and classes in brackets, and in some shells
alternatives in parentheses.

A pattern is made of glyphs, of which the quoted ones stand for themselves.
-/

namespace TestWeaver.Pattern

/-- A character, and whether it was quoted. -/
structure Glyph where
  char : Char
  quoted : Bool := false
deriving DecidableEq, Repr

namespace Glob

/-- How patterns are read and compared. A wide character has several octets. -/
structure Style where
  wide : Bool := false
  extended : Bool := false
  caseless : Bool := false
deriving DecidableEq, Repr

inductive Item where
  | exact (c : Char)
  | any
  | many
  | set (negated : Bool) (members : List Member)
  /-- Alternatives, and the mark in front of them that says how often they may stand there. -/
  | group (mark : Char) (alternatives : List (List Item))

def Item.isExact : Item → Bool
  | .exact _ => true
  | _ => false

/-- The members of a class behind its opening bracket. A closing bracket that comes first is a
member; nothing if the class is not closed. -/
def members : Nat → Bool → List Glyph → Option (List Member × List Glyph)
  | 0, _, _ => none
  | _ + 1, _, [] => none
  | n + 1, isFirst, g :: gs =>
    if g.char = ']' && !g.quoted && !isFirst then some ([], gs)
    else
      let kind : Option (Text × List Glyph) :=
        match gs with
        | h :: hs =>
          if g.char = '[' && !g.quoted && h.char = ':' then
            (named? ':' (hs.map (·.char))).bind fun (name, r) =>
              if (kind? name).isSome then some (name, hs.drop (hs.length - r.length)) else none
          else none
        | [] => none
      match kind with
      | some (name, rest) => (members n false rest).map fun (ms, r) => (.named name :: ms, r)
      | none =>
        match gs with
        | d :: e :: rest =>
          if d.char = '-' && !d.quoted && !(e.char = ']' && !e.quoted) then
            (members n false rest).map fun (ms, r) => (.range g.char e.char :: ms, r)
          else (members n false gs).map fun (ms, r) => (.one g.char :: ms, r)
        | _ => (members n false gs).map fun (ms, r) => (.one g.char :: ms, r)

def isGroupMark (c : Char) : Bool := "?*+@!".toList.contains c

/-- The alternatives up to the parenthesis that closes them. -/
def alternatives : Nat → List Glyph → List Glyph → Option (List (List Glyph) × List Glyph)
  | _, _, [] => none
  | depth, acc, g :: gs =>
    if g.quoted then alternatives depth (g :: acc) gs
    else if g.char = '(' then alternatives (depth + 1) (g :: acc) gs
    else if g.char = ')' then
      match depth with
      | 0 => some ([acc.reverse], gs)
      | d + 1 => alternatives d (g :: acc) gs
    else if g.char = '|' && depth = 0 then
      (alternatives 0 [] gs).map fun (as, r) => (acc.reverse :: as, r)
    else alternatives depth (g :: acc) gs

def itemsFrom (extended : Bool) : Nat → List Glyph → List Item
  | 0, _ => []
  | _ + 1, [] => []
  | n + 1, g :: gs =>
    let group : Option (List (List Glyph) × List Glyph) :=
      match gs with
      | h :: hs =>
        if extended && !g.quoted && isGroupMark g.char && h.char = '(' && !h.quoted then
          alternatives 0 [] hs
        else none
      | [] => none
    match group with
    | some (as, rest) => .group g.char (as.map (itemsFrom extended n)) :: itemsFrom extended n rest
    | none =>
      if g.quoted then .exact g.char :: itemsFrom extended n gs
      else if g.char = '*' then .many :: itemsFrom extended n gs
      else if g.char = '?' then .any :: itemsFrom extended n gs
      else if g.char = '[' then
        let (negated, inner) :=
          match gs with
          | h :: hs => if (h.char = '!' || h.char = '^') && !h.quoted then (true, hs) else (false, gs)
          | [] => (false, gs)
        match members (inner.length + 1) true inner with
        | some (ms, rest) => .set negated ms :: itemsFrom extended n rest
        | none => .exact '[' :: itemsFrom extended n gs
      else if g.char = '\\' then
        match gs with
        | h :: hs => .exact h.char :: itemsFrom extended n hs
        | [] => [.exact '\\']
      else .exact g.char :: itemsFrom extended n gs

def items (gs : List Glyph) (extended : Bool := false) : List Item :=
  itemsFrom extended (gs.length + 1) gs

/-- Whether a text is more than its own name. -/
def isPattern (gs : List Glyph) (extended : Bool := false) : Bool :=
  (items gs extended).any fun i => !i.isExact

/-- What is left of a text behind one character. A wide one has several octets. -/
def behindOne (wide : Bool) (c : Char) (s : Text) : Text :=
  if wide && 0xC0 ≤ c.toNat then s.dropWhile fun d => 0x80 ≤ d.toNat && d.toNat < 0xC0 else s

mutual

def matchesFrom (st : Style) : Nat → List Item → Text → Bool
  | 0, _, _ => false
  | _ + 1, [], s => s = []
  | n + 1, .many :: is, s =>
    matchesFrom st n is s ||
      match s with
      | [] => false
      | _ :: r => matchesFrom st n (.many :: is) r
  | n + 1, .group mark as :: is, s =>
    (List.range (s.length + 1)).any fun k =>
      groupMatches st n mark as (s.take k) && matchesFrom st n is (s.drop k)
  | _ + 1, _ :: _, [] => false
  | n + 1, .exact c :: is, d :: s =>
    (c = d || (st.caseless && c.toLower = d.toLower)) && matchesFrom st n is s
  | n + 1, .any :: is, d :: s => matchesFrom st n is (behindOne st.wide d s)
  | n + 1, .set negated ms :: is, d :: s =>
    let isIn := ms.any (·.has d) || (st.caseless && (ms.any (·.has d.toLower) || ms.any (·.has d.toUpper)))
    isIn ≠ negated && matchesFrom st n is (behindOne st.wide d s)

/-- Whether alternatives are a whole text, as often as their mark allows. -/
def groupMatches (st : Style) : Nat → Char → List (List Item) → Text → Bool
  | 0, _, _, _ => false
  | n + 1, mark, as, s =>
    let one := fun (t : Text) => as.any fun a => matchesFrom st n a t
    match mark with
    | '?' => s = [] || one s
    | '@' => one s
    | '!' => !one s
    | _ =>
      (mark = '*' && s = []) || one s ||
        (List.range s.length).any fun k =>
          k ≠ 0 && one (s.take k) && groupMatches st n '+' as (s.drop k)

end

/-- Several stars in a row are one. -/
def simplified : List Item → List Item
  | .many :: is =>
    match simplified is with
    | .many :: r => .many :: r
    | r => .many :: r
  | i :: is => i :: simplified is
  | [] => []

mutual

def weight : List Item → Nat
  | [] => 0
  | .group _ as :: is => 2 + weights as + weight is
  | _ :: is => 1 + weight is

def weights : List (List Item) → Nat
  | [] => 0
  | a :: as => weight a + weights as

end

/-- Whether a pattern is a whole text. -/
def covers (st : Style) (is : List Item) (s : Text) : Bool :=
  matchesFrom st (2 * (weight is + s.length) + 4) (simplified is) s

/-- The lengths of the beginnings, or ends, of a text that a pattern covers. -/
def lengths (st : Style) (atEnd : Bool) (is : List Item) (s : Text) : List Nat :=
  (List.range (s.length + 1)).filter fun n =>
    covers st is (if atEnd then s.drop (s.length - n) else s.take n)

/-- The text without the shortest or longest beginning or end that a pattern covers. -/
def trim (st : Style) (atEnd longest : Bool) (is : List Item) (s : Text) : Text :=
  let ns := lengths st atEnd is s
  match if longest then ns.getLast? else ns.head? with
  | none => s
  | some n => if atEnd then s.take (s.length - n) else s.drop n

end Glob

end TestWeaver.Pattern
