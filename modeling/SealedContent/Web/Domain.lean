import SealedContent.Text.Composition
import SealedContent.Text.Direction
import SealedContent.Text.Folding
import SealedContent.Text.Split
import SealedContent.Text.Visible
import SealedContent.Web.Punycode

/-!
Names of hosts. A name is folded and composed; labels beyond ASCII travel in an ASCII form with a
mark before it.
-/

namespace SealedContent.Web.Domain

/-- Characters that end or change an address, and so cannot stand in a name. -/
def isForbidden (char : Char) : Bool :=
  char.toNat ≤ 0x20 ∨ char.toNat = 0x7F ∨ "#/:<>?@[\\]^|%".toList.contains char

def marker : List Char := "xn--".toList

def isAscii (label : List Char) : Bool :=
  label.all fun char => char.toNat < 0x80

/-- Full stops of several scripts separate labels. -/
def isStop (char : Char) : Bool :=
  char = '.' ∨ char = '\u3002'

/-- Stand-ins for objects and for what could not be read. -/
def isReplacement (char : Char) : Bool :=
  char = '\uFFFC' ∨ char = '\uFFFD'

def fold (name : List Char) : List Char :=
  Text.compose (name.flatMap Text.foldChar)

/-- A label that stands for itself: folded, composed, visible, whole, and with no mark at its start. -/
def isPlain (label : List Char) : Bool :=
  fold label = label ∧
    (label.all fun char => ¬ Text.isHidden char ∧ ¬ isReplacement char ∧ ¬ isStop char) ∧
    ¬ (label.head?.any Text.isMark)

def plainLabel? (label : List Char) : Option (List Char) :=
  if label.take marker.length = marker then
    match Punycode.decode? (label.drop marker.length) with
    | some plain => if isAscii plain ∨ ¬ isPlain plain then none else some plain
    | none => none
  else if isAscii label ∨ isPlain label then some label
  else none

def asciiForm (plain : List Char) : List Char :=
  if isAscii plain then plain else marker ++ Punycode.encode plain

/-- Where one label is written from right to left, all labels keep to their directions. -/
def directed (labels : List (List Char)) : Bool :=
  labels.any Text.turnsLeft → labels.all Text.keepsDirection

/-- The ASCII form of a name: every label in its ASCII form, and no forbidden character left. -/
def canonical? (name : List Char) : Option (List Char) := do
  let labels ← (Text.splitWhere isStop (fold name)).mapM plainLabel?
  let joined := Text.joinWith '.' (labels.map asciiForm)
  if joined.any isForbidden ∨ ¬ directed labels then none else some joined

end SealedContent.Web.Domain
