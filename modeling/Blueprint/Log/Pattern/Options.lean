import Blueprint.Text.Blank

/-!
# Options of patterns

Options are switched inside a pattern and hold for what follows, up to the end of the group. They
decide what may stand in a pattern, because two things are not at hand.

There are no tables of letters: so, where characters of all scripts count, nothing may stand that
needs one, which is a letter whose case does not matter and a class or a boundary that is given by
what belongs to a word.

A match consists of whole characters: so, where bytes count, nothing may stand that matches a byte
of a longer character.
-/

namespace Blueprint.Log.Pattern

/-- The options that hold at a place of a pattern. -/
structure Options where
  /-- Blanks and comments do not count. -/
  spaced : Bool := false
  /-- The case of letters does not matter. -/
  caseless : Bool := false
  /-- Characters of all scripts count, and not bytes. -/
  wide : Bool := true
  deriving DecidableEq, Repr

/-- Skips blanks, and comments from a number sign to the end of the line, given whether the text
starts inside a comment. -/
def skipBlanks : Bool → List Char → List Char
  | _, [] => []
  | true, c :: s => skipBlanks (c != '\n') s
  | false, c :: s =>
    if Text.isBlank c then skipBlanks false s
    else if c = '#' then skipBlanks true s
    else c :: s

namespace Options

/-- Skips what does not count. -/
def skip (o : Options) (s : List Char) : List Char := if o.spaced then skipBlanks false s else s

/-- The next character that counts after a dash. A number sign does not count, but what follows it
on its line does. -/
def afterDash? (o : Options) (s : List Char) : Option Char :=
  if o.spaced then
    match s.dropWhile Text.isBlank with
    | '#' :: r => (r.dropWhile Text.isBlank).head?
    | r => r.head?
  else s.head?

/-! ## Switching -/

/-- The letters of all options. Some make no difference to what may stand in a pattern. -/
def letters : List Char := ['i', 'm', 's', 'U', 'u', 'R', 'x']

/-- Switches an option by its letter. -/
def switch (o : Options) (on : Bool) (letter : Char) : Options :=
  match letter with
  | 'i' => { o with caseless := on }
  | 'u' => { o with wide := on }
  | 'x' => { o with spaced := on }
  | _ => o

/-- Switches options: those before a dash on, and those after it off. There is at most one dash,
letters after it, and no letter twice. -/
def switchAll? (o : Options) (s : List Char) : Option Options :=
  let on := s.takeWhile (· != '-')
  let off := (s.dropWhile (· != '-')).tail
  if s.Nodup ∧ (on ++ off).all (· ∈ letters) ∧ (off.isEmpty → '-' ∉ s) then
    some (off.foldl (·.switch false) (on.foldl (·.switch true) o))
  else none

/-! ## What may stand in a pattern -/

/-- Whether a character may stand, given whether its code is written as that of a byte. -/
def allowsCharacter (o : Options) (c : Char) (byte : Bool) : Bool :=
  if o.wide then !o.caseless else !byte || c.toNat < 0x80

/-- Whether any character may be asked for. -/
def allowsAny (o : Options) : Bool := o.wide

/-- Whether a boundary of words may be asked for. -/
def allowsBoundary (o : Options) : Bool := !o.wide

/-- Whether a class given by a letter, or its complement, may stand. -/
def allowsKind (o : Options) (complement : Bool) : Bool := !o.wide && !complement

/-- Whether a character may be a member of a class. -/
def allowsMember (o : Options) (c : Char) : Bool := if o.wide then !o.caseless else c.toNat < 0x80

/-- Whether a class given by its name, or its complement, may be a member of a class. -/
def allowsNamed (o : Options) (complement : Bool) : Bool :=
  if o.wide then !o.caseless else !complement

/-- Whether a class given by its members, or its complement, may stand. -/
def allowsClass (o : Options) (complement : Bool) : Bool := o.wide || !complement

end Options

end Blueprint.Log.Pattern
