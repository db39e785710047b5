import Storyline.Text.Columns
import Storyline.Text.Emoji

/-!
How many columns a text takes where letters are of one width. Mostly these are the columns of its
characters together, but some sequences are shown as one: emoji with selectors, skin tones, joiners
or tags, and the ligatures of several scripts. A text is read from its end, since the last characters
of a sequence decide what becomes of those before them.
-/
namespace Storyline.Text

/-- The last letter of a ligature, which waits for the letters before it. -/
inductive Tail where
  | lamed
  | buginese
  /-- A Buginese letter and the vowel before it. -/
  | bugineseVowel
  | tifinagh
  /-- A Tifinagh letter and the mark that joins it to the one before. -/
  | tifinaghJoined
  | lisuTone
  | oldTurkic
  /-- A Khmer letter that is put below the one before it by a sign between them. -/
  | khmer
  deriving DecidableEq

/-- What has been read, as far as it matters to the characters before it. -/
inductive Sequel where
  | other
  | lineFeed
  | alef
  /-- The end of a ligature, and whether a joiner has been read before it. -/
  | ligature (tail : Tail) (linked : Bool)
  | kiratE
  | kiratAi
  | skinTone
  /-- A letter of a flag, and whether there is another one right behind it. -/
  | flagLetter (paired : Bool)
  | picture
  /-- A joiner before an emoji. -/
  | joined
  | joinedKeycap
  /-- The letters of a flag that is joined to an emoji: one, or as many as are even or odd. -/
  | joinedLetter
  | joinedEven
  | joinedOdd
  /-- The end of a tag with so many letters, or with so many digits before them. -/
  | tagLetters (count : Nat)
  | tagDigits (count : Nat)
  deriving DecidableEq

structure Following where
  sequel : Sequel := .other
  asPicture : Bool := false
  asText : Bool := false
  asWide : Bool := false

namespace Sequel

def staysBehindSelectors : Sequel → Bool
  | alef | ligature .. => true
  | _ => false

def isJoined : Sequel → Bool
  | joined | joinedKeycap => true
  | _ => false

def ofChar (c : Char) : Sequel :=
  let n := c.toNat
  if n = 0x5DC then ligature .lamed false
  else if inRanges [(0x622, 0x623), (0x625, 0x625), (0x627, 0x627), (0x671, 0x673), (0x675, 0x675),
    (0x773, 0x774), (0x870, 0x882)] c then alef
  else if inRanges [(0x1780, 0x1782), (0x1784, 0x1787), (0x1789, 0x178C), (0x178E, 0x1793),
    (0x1795, 0x1798), (0x179B, 0x179D), (0x17A0, 0x17A0), (0x17A2, 0x17A2), (0x17A7, 0x17A7),
    (0x17AB, 0x17AC), (0x17AF, 0x17AF)] c then ligature .khmer false
  else if n = 0x1A10 then ligature .buginese false
  else if inRanges [(0x2D31, 0x2D65), (0x2D6F, 0x2D6F)] c then ligature .tifinagh false
  else if n = 0xA4FC ∨ n = 0xA4FD then ligature .lisuTone false
  else if n = 0x10C03 then ligature .oldTurkic false
  else if n = 0x16D67 then kiratE
  else if n = 0x16D68 then kiratAi
  else if isFlagLetter c then flagLetter false
  else if isSkinTone c then skinTone
  else if isPicture c then picture
  else other

/-- What a character and the end of a ligature come to: the columns that it adds, and what it leaves
to those before it. -/
def meetTail (linked : Bool) (c : Char) : Tail → Option (Int × Sequel)
  | .lamed => if linked ∧ c.toNat = 0x5D0 then some (0, other) else none
  | .buginese =>
    if linked ∧ c.toNat = 0x1A17 then some (0, ligature .bugineseVowel true) else none
  | .bugineseVowel => if c.toNat = 0x1A15 then some (0, other) else none
  | .tifinagh =>
    if c.toNat = 0x2D7F then some (1, ligature .tifinaghJoined true)
    else if linked ∧ ofChar c = ligature .tifinagh false then some (0, other)
    else none
  | .tifinaghJoined => if ofChar c = ligature .tifinagh false then some (-1, other) else none
  | .lisuTone => if inRanges [(0xA4F8, 0xA4FB)] c then some (0, other) else none
  | .oldTurkic => if linked ∧ c.toNat = 0x10C32 then some (0, other) else none
  | .khmer => if c.toNat = 0x17D2 then some (-1, other) else none

def meetTag (c : Char) : Sequel → Option (Int × Sequel)
  | tagLetters n =>
    if isTagLetter c ∧ n < 6 then some (0, tagLetters (n + 1))
    else if isTagDigit c ∧ n ≤ 4 then some (0, tagDigits 1)
    else if c = blackFlag ∧ 3 ≤ n then some (0, picture)
    else none
  | tagDigits n =>
    if isTagDigit c ∧ n < 3 then some (0, tagDigits (n + 1))
    else if c = blackFlag ∧ n = 3 then some (0, picture)
    else none
  | _ => none

/-- What a character and what has been read behind it come to, where they are shown as one. -/
def meet? (c : Char) : Sequel → Option (Int × Sequel)
  | other | lineFeed | joinedKeycap => none
  | alef =>
    if inRanges [(0x644, 0x644), (0x6B5, 0x6B8), (0x76A, 0x76A), (0x8A6, 0x8A6), (0x8C7, 0x8C7)] c
    then some (0, other)
    else if letsArabicJoin c then some (0, alef)
    else none
  | ligature tail linked =>
    if c = joiner then some (0, ligature tail true)
    else if isIgnoredMark c then some (0, ligature tail linked)
    else meetTail linked c tail
  | kiratE =>
    if c.toNat = 0x16D63 ∨ c.toNat = 0x16D69 then some (0, other)
    else if c.toNat = 0x16D67 then some (0, kiratAi)
    else if c.toNat = 0x16D68 then some (1, kiratE)
    else none
  | kiratAi => if c.toNat = 0x16D63 then some (0, other) else none
  | skinTone =>
    if takesSkinTone c then some (0, picture)
    else if c = joiner then some (0, joined)
    else none
  | flagLetter paired =>
    if isFlagLetter c then some (1, flagLetter true)
    else if c = joiner ∧ paired then some (0, joined)
    else none
  | picture => if c = joiner then some (0, joined) else none
  | joined =>
    if c = keycap then some (0, joinedKeycap)
    else if c = tagEnd then some (0, tagLetters 0)
    else
      match ofChar c with
      | flagLetter _ => some (1, joinedLetter)
      | skinTone => some (0, skinTone)
      | picture => some (0, picture)
      | _ => none
  | joinedLetter => if isFlagLetter c then some (-1, joinedEven) else none
  | joinedEven =>
    if isFlagLetter c then some (3, joinedOdd)
    else if c = joiner then some (0, joined)
    else none
  | joinedOdd =>
    if isFlagLetter c then some (-1, joinedEven)
    else if c = joiner then some (0, joined)
    else none
  | s => meetTag c s

def add (s : Sequel) (c : Char) : Int × Sequel := (s.meet? c).getD (columns c, ofChar c)

/-- As `add`, for ASCII and the control characters beyond it, which meet nothing but line ends. -/
def addPlain (s : Sequel) (c : Char) : Int × Sequel :=
  if c = '\n' then (1, lineFeed)
  else if c = '\r' ∧ s = lineFeed then (0, other)
  else (1, other)

end Sequel

namespace Following

def withSelector (f : Following) (ask : Following → Following) : Following :=
  ask (if f.sequel.staysBehindSelectors then f else {})

def withPicture (f : Following) : Following :=
  if f.sequel.isJoined then { f with asPicture := true }
  else f.withSelector ({ · with asPicture := true })

def withoutPicture (f : Following) : Following :=
  if f.sequel.staysBehindSelectors || !f.asPicture then { f with asPicture := false } else {}

def addUnpictured (f : Following) (c : Char) : Int × Following :=
  let after : Int × Sequel → Int × Following := fun (n, s) => (n, { sequel := s })
  if c.toNat ≤ 0xA0 then after (f.sequel.addPlain c)
  else if c = Text.asPicture then (0, f.withPicture)
  else if c = Text.asText then (0, f.withSelector ({ · with asText := true }))
  else if c = Text.asWide then (0, f.withSelector ({ · with asWide := true }))
  else if f.asText && hasNarrowText c then (1, {})
  else if f.asWide && isCurlyQuote c then (2, {})
  else after (f.sequel.add c)

def add (f : Following) (c : Char) : Int × Following :=
  if f.asPicture && isVariable c then (if f.sequel.isJoined then 0 else 2, { sequel := .picture })
  else f.withoutPicture.addUnpictured c

end Following

def measure : List Char → Int × Following
  | [] => (0, {})
  | c :: rest =>
    let (width, following) := measure rest
    let (more, following) := following.add c
    (width + more, following)

def width (s : String) : Nat := (measure s.toList).1.toNat

end Storyline.Text
