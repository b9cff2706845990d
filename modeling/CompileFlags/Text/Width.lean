import CompileFlags.Text.EmojiRanges
import CompileFlags.Text.WidthRanges

set_option autoImplicit false

/-!
# Width of text

How many columns of a terminal a character and a text take. The width of a text is mostly the sum
over its characters. It is not where several of them are drawn as one: emoji, flags, a line break,
and the joined letters of some scripts. Texts are therefore measured from the end to the start,
with a note of what the next character may join.
-/

namespace CompileFlags.Text

def inRanges (ranges : List (Nat × Nat)) (n : Nat) : Bool :=
  ranges.any fun range => range.1 ≤ n && n ≤ range.2

def within (low high : Nat) (c : Char) : Bool :=
  low ≤ c.toNat && c.toNat ≤ high

def isControl (c : Char) : Bool :=
  c.toNat < 0x20 || within 0x7F 0x9F c

def charWidth (c : Char) : Nat :=
  if isControl c then 0
  else if inRanges zeroWidthRanges c.toNat then 0
  else if inRanges wideRanges c.toNat then 2
  else if c.toNat = 0x17D8 then 3
  else 1

def looseWidth (s : List Char) : Nat :=
  s.foldr (fun c n => charWidth c + n) 0

/-- What a variation selector makes of the character before it. -/
inductive Selector where
  | picture
  | plain
  | wide
deriving DecidableEq

def Selector.ofChar? (c : Char) : Option Selector :=
  if c.toNat = 0xFE0F then some .picture
  else if c.toNat = 0xFE0E then some .plain
  else if c.toNat = 0xFE01 then some .wide
  else none

/-- The second half of two letters that are drawn as one. -/
inductive Second where
  | hebrewLamed
  | khmerLetter
  | bugineseYa
  | bugineseVowelYa
  | tifinaghConsonant
  | tifinaghJoined
  | lisuTone
  | turkicI
deriving DecidableEq

/-- What a text starts with, as far as the character in front of it may be drawn with it. -/
inductive Front where
  | plain
  | lineFeed
  | picture
  | tone
  | indicator
  | indicators
  | joined
  | joinedKeycap
  | joinedIndicator
  | joinedFlags
  | joinedFlagsAndIndicator
  | tagLetters (count : Nat)
  | tagDigits (count : Nat)
  | kiratVowel
  | kiratTwoVowels
  | arabicAlef
  | letter (second : Second) (joiner : Bool)
deriving DecidableEq

/-- What lies behind the characters still to be measured. -/
structure Ahead where
  front : Front
  selector : Option Selector := none
deriving DecidableEq

def joiner : Nat := 0x200D

def isIgnoredMark (c : Char) : Bool :=
  c.toNat = 0x34F || within 0x17B4 0x17B5 c || within 0x180B 0x180D c || c.toNat = 0x180F ||
    within 0xFE00 0xFE0F c || within 0xE0100 0xE01EF c

def isArabicMark (c : Char) : Bool :=
  charWidth c = 0 && !inRanges opaqueRanges c.toNat

def isIndicator (c : Char) : Bool :=
  within 0x1F1E6 0x1F1FF c

def isTone (c : Char) : Bool :=
  within 0x1F3FB 0x1F3FF c

def isPicture (c : Char) : Bool :=
  inRanges pictureRanges c.toNat

def isTagLetter (c : Char) : Bool :=
  within 0xE0061 0xE007A c

def isTagDigit (c : Char) : Bool :=
  within 0xE0030 0xE0039 c

def isArabicLam (c : Char) : Bool :=
  c.toNat = 0x644 || within 0x6B5 0x6B8 c || c.toNat = 0x76A || c.toNat = 0x8A6 || c.toNat = 0x8C7

def isArabicAlef (c : Char) : Bool :=
  within 0x622 0x623 c || c.toNat = 0x625 || c.toNat = 0x627 || within 0x671 0x673 c ||
    c.toNat = 0x675 || within 0x773 0x774 c || within 0x870 0x882 c

/-- Letters that are written below the one before them and take no room there. -/
def isKhmerLetter (c : Char) : Bool :=
  inRanges [(0x1780, 0x1782), (0x1784, 0x1787), (0x1789, 0x178C), (0x178E, 0x1793),
    (0x1795, 0x1798), (0x179B, 0x179D), (0x17A0, 0x17A0), (0x17A2, 0x17A2), (0x17A7, 0x17A7),
    (0x17AB, 0x17AC), (0x17AF, 0x17AF)] c.toNat

def isTifinaghConsonant (c : Char) : Bool :=
  within 0x2D31 0x2D65 c || c.toNat = 0x2D6F

def isQuotationMark (c : Char) : Bool :=
  within 0x2018 0x2019 c || within 0x201C 0x201D c

def Front.ofChar (c : Char) : Front :=
  if c = '\n' then .lineFeed
  else if c.toNat ≤ 0xA0 then .plain
  else if isPicture c then .picture
  else if isTone c then .tone
  else if isIndicator c then .indicator
  else if isArabicAlef c then .arabicAlef
  else if c.toNat = 0x5DC then .letter .hebrewLamed false
  else if isKhmerLetter c then .letter .khmerLetter true
  else if c.toNat = 0x1A10 then .letter .bugineseYa false
  else if isTifinaghConsonant c then .letter .tifinaghConsonant false
  else if within 0xA4FC 0xA4FD c then .letter .lisuTone true
  else if c.toNat = 0x10C03 then .letter .turkicI false
  else if c.toNat = 0x16D67 then .kiratVowel
  else if c.toNat = 0x16D68 then .kiratTwoVowels
  else .plain

def Front.isLetter : Front → Bool
  | .letter _ _ | .arabicAlef => true
  | _ => false

def Ahead.select (a : Ahead) (s : Selector) : Ahead :=
  let kept := a.front.isLetter || s = .picture && (a.front = .joined || a.front = .joinedKeycap)
  ⟨if kept then a.front else .plain, some s⟩

def Ahead.unselect (a : Ahead) : Ahead :=
  if a.selector.isSome && !a.front.isLetter then ⟨.plain, none⟩ else ⟨a.front, none⟩

def selected? (c : Char) (w : Nat) (a : Ahead) : Option (Nat × Ahead) :=
  match a.selector with
  | none => none
  | some .picture =>
    if !inRanges selectableRanges c.toNat then none
    else if a.front = .joined ∨ a.front = .joinedKeycap then some (w, ⟨.picture, none⟩)
    else some (w + 2, ⟨.picture, none⟩)
  | some .plain =>
    if inRanges plainableRanges c.toNat then some (w + 1, ⟨.plain, none⟩) else none
  | some .wide =>
    if isQuotationMark c then some (w + 2, ⟨.plain, none⟩) else none

def joined? (c : Char) (w : Nat) : Front → Option (Nat × Front)
  | .lineFeed => if c = '\r' then some (w, .plain) else none
  | .picture => if c.toNat = joiner then some (w, .joined) else none
  | .tone =>
    if inRanges toneBaseRanges c.toNat then some (w, .picture)
    else if c.toNat = joiner then some (w, .joined)
    else none
  | .indicator => if isIndicator c then some (w + 1, .indicators) else none
  | .indicators =>
    if isIndicator c then some (w + 1, .indicators)
    else if c.toNat = joiner then some (w, .joined)
    else none
  | .joined =>
    if c.toNat = 0x20E3 then some (w, .joinedKeycap)
    else if isIndicator c then some (w + 1, .joinedIndicator)
    else if isTone c then some (w, .tone)
    else if c.toNat = 0xE007F then some (w, .tagLetters 0)
    else if isPicture c then some (w, .picture)
    else none
  | .joinedIndicator => if isIndicator c then some (w - 1, .joinedFlags) else none
  | .joinedFlags =>
    if isIndicator c then some (w + 3, .joinedFlagsAndIndicator)
    else if c.toNat = joiner then some (w, .joined)
    else none
  | .joinedFlagsAndIndicator =>
    if isIndicator c then some (w - 1, .joinedFlags)
    else if c.toNat = joiner then some (w, .joined)
    else none
  | .tagLetters n =>
    if isTagLetter c ∧ n < 6 then some (w, .tagLetters (n + 1))
    else if isTagDigit c ∧ n ≤ 4 then some (w, .tagDigits 1)
    else if c.toNat = 0x1F3F4 ∧ 3 ≤ n then some (w, .picture)
    else none
  | .tagDigits n =>
    if isTagDigit c ∧ n < 3 then some (w, .tagDigits (n + 1))
    else if c.toNat = 0x1F3F4 ∧ n = 3 then some (w, .picture)
    else none
  | .kiratVowel =>
    if c.toNat = 0x16D63 ∨ c.toNat = 0x16D69 then some (w, .plain)
    else if c.toNat = 0x16D67 then some (w, .kiratTwoVowels)
    else if c.toNat = 0x16D68 then some (w + 1, .kiratVowel)
    else none
  | .kiratTwoVowels => if c.toNat = 0x16D63 then some (w, .plain) else none
  | .arabicAlef =>
    if isArabicLam c then some (w, .plain)
    else if isArabicMark c then some (w, .arabicAlef)
    else none
  | .letter second withJoiner =>
    if c.toNat = joiner then some (w, .letter second true)
    else if isIgnoredMark c then some (w, .letter second withJoiner)
    else match second, withJoiner with
      | .hebrewLamed, true => if c.toNat = 0x5D0 then some (w, .plain) else none
      | .khmerLetter, _ => if c.toNat = 0x17D2 then some (w - 1, .plain) else none
      | .bugineseYa, true =>
        if c.toNat = 0x1A17 then some (w, .letter .bugineseVowelYa true) else none
      | .bugineseVowelYa, _ => if c.toNat = 0x1A15 then some (w, .plain) else none
      | .tifinaghConsonant, _ =>
        if c.toNat = 0x2D7F then some (w + 1, .letter .tifinaghJoined true)
        else if withJoiner ∧ isTifinaghConsonant c then some (w, .plain)
        else none
      | .tifinaghJoined, _ => if isTifinaghConsonant c then some (w - 1, .plain) else none
      | .lisuTone, _ => if within 0xA4F8 0xA4FB c then some (w, .plain) else none
      | .turkicI, true => if c.toNat = 0x10C32 then some (w, .plain) else none
      | _, false => none
  | .plain | .joinedKeycap => none

/-- A character in front of a text of width `w`. Control characters take a column in a text. -/
def measureStep (c : Char) : Nat × Ahead → Nat × Ahead
  | (w, a) =>
    match selected? c w a with
    | some measured => measured
    | none =>
      match Selector.ofChar? c with
      | some s => (w, a.unselect.select s)
      | none =>
        let a := a.unselect
        match joined? c w a.front with
        | some (w, front) => (w, ⟨front, none⟩)
        | none => (w + if isControl c then 1 else charWidth c, ⟨Front.ofChar c, none⟩)

def measure (s : List Char) : Nat × Ahead :=
  s.foldr measureStep (0, ⟨.plain, none⟩)

def width (s : List Char) : Nat :=
  (measure s).1

@[simp] theorem looseWidth_nil : looseWidth [] = 0 := rfl

@[simp] theorem looseWidth_cons (c : Char) (s : List Char) :
    looseWidth (c :: s) = charWidth c + looseWidth s := rfl

@[simp] theorem looseWidth_append (s t : List Char) :
    looseWidth (s ++ t) = looseWidth s + looseWidth t := by
  induction s with
  | nil => simp
  | cons c s ih => rw [List.cons_append, looseWidth_cons, looseWidth_cons, ih, Nat.add_assoc]

@[simp] theorem width_nil : width [] = 0 := rfl

end CompileFlags.Text
