import CommandTree.Markup.Emoji
import CommandTree.Markup.Handler
import CommandTree.Markup.Style
import CommandTree.Terminal
/-!
Text with markup.

A tag in square brackets opens a style, and a tag with a slash closes the style that it names, or the last one that is
open. A tag begins with a small letter or one of three signs; other brackets are text, and so is a tag behind an odd
number of backslashes, of which two stand for one. Styles that are left open close at the end. A tag that begins with
an at sign is for an event, and its handler is checked when it is closed. On a terminal without styles only the text
remains, in which names of emoji are replaced.

* `Piece.ofText` cuts a text with markup into pieces of text and tags;
* `Markup.plainText?` is the text that remains;
* `Markup.printed?` is that text as it is printed.
-/

namespace CommandTree

open Text

/-! ### Failures -/

/-- Why markup is faulty. -/
inductive MarkupError where
  | notOpen (tag : String) (position : Nat)
  | nothingOpen (position : Nat)
  | badHandler (fault : Markup.HandlerFault)
  deriving DecidableEq, Repr

/-- The wording of a fault of markup. -/
def MarkupError.message : MarkupError → String
  | notOpen tag position => s!"closing tag '{tag}' at position {position} doesn't match any open tag"
  | nothingOpen position => s!"closing tag '[/]' at position {position} has nothing to close"
  | badHandler fault => fault.message

namespace Markup

/-! ### Pieces -/

/-- A piece of a text with markup. -/
inductive Piece where
  | text (cs : List Char)
  -- a tag, by what stands in its brackets; `position` counts the characters before it
  | tag (position : Nat) (body : List Char)
  deriving DecidableEq, Repr

namespace Piece

/-- Whether a tag can begin with a character. -/
def opensTag (c : Char) : Bool := (decide ('a' ≤ c) && decide (c ≤ 'z')) || c == '#' || c == '/' || c == '@'

/-- What stands in the brackets of a tag whose first bracket has been read, and what follows the tag. -/
def body? : List Char → Option (List Char × List Char)
  | [] => none
  | c :: cs =>
    if opensTag c then
      match cs.dropWhile fun d => d ≠ ']' && d ≠ '[' with
      | ']' :: rest => some (c :: cs.takeWhile fun d => d ≠ ']' && d ≠ '[', rest)
      | _ => none
    else none

/-- Nothing is lost when a tag is split off. -/
theorem append_of_body {cs body rest : List Char} (h : body? cs = some (body, rest)) : body ++ ']' :: rest = cs := by
  unfold body? at h
  split at h
  · cases h
  · split at h
    · split at h
      · rename_i c cs _ rest' ends
        cases h
        rw [List.cons_append, ← ends, List.takeWhile_append_dropWhile]
      · cases h
    · cases h

/-- The piece of text with some characters, if there are any. -/
def ofChars : List Char → List Piece
  | [] => []
  | cs => [text cs]

/-- The pieces of a tag behind so many backslashes, of which two stand for one; an odd one makes the tag text. -/
def behindSlashes (position slashes : Nat) (body : List Char) : List Piece :=
  ofChars (List.replicate (slashes / 2) '\\')
    ++ [if slashes % 2 = 1 then text ('[' :: body ++ [']']) else tag (position + slashes) body]

/-- The pieces of a text. The characters `before`, the last one first, have been read since the last piece and stand at
`position`, and so many backslashes behind them. -/
def scan (position : Nat) (before : List Char) (slashes : Nat) (cs : List Char) : List Piece :=
  match cs with
  | [] => ofChars (before.reverse ++ List.replicate slashes '\\')
  | c :: cs =>
    let plain := List.replicate slashes '\\' ++ before
    if c = '\\' then scan position before (slashes + 1) cs
    else if c = '[' then
      match _h : body? cs with
      | some (body, rest) =>
        let start := position + before.length
        ofChars before.reverse ++ behindSlashes start slashes body ++ scan (start + slashes + body.length + 2) [] 0 rest
      | none => scan position ('[' :: plain) 0 cs
    else scan position (c :: plain) 0 cs
termination_by cs.length
decreasing_by
  · simp
  · have := congrArg List.length (append_of_body _h)
    simp only [List.length_append, List.length_cons] at this ⊢
    omega
  · simp
  · simp

/-- The pieces of a text. -/
def ofText (cs : List Char) : List Piece := scan 0 [] 0 cs

end Piece

/-! ### What remains -/

/-- A text without the backslashes in front of brackets. -/
def withoutEscapes : List Char → List Char
  | '\\' :: '[' :: cs => '[' :: withoutEscapes cs
  | c :: cs => c :: withoutEscapes cs
  | [] => []

/-- A tag that is open. -/
structure OpenTag where
  name : String
  handler : Option String
  deriving DecidableEq, Repr

/-- The name of a tag, which ends at an equals sign. -/
def tagName (body : List Char) : String := .ofList (body.takeWhile (· ≠ '='))

/-- The tag with some characters in its brackets. -/
def OpenTag.ofBody (body : List Char) : OpenTag :=
  ⟨Style.normalName (tagName body),
    match body.dropWhile (· ≠ '=') with
    | [] => none
    | _ :: handler => some (.ofList handler)⟩

/-- Checks the handler of a tag, which only the ones for events have. -/
def OpenTag.close (tag : OpenTag) : Except MarkupError Unit :=
  match tag.handler with
  | none => .ok ()
  | some handler =>
    if tag.name.startsWith "@" && !handler.isEmpty then (Handler.check handler).mapError .badHandler else .ok ()

/-- The open tags, the last one first, behind a tag. -/
def afterTag (tags : List OpenTag) (position : Nat) (body : List Char) : Except MarkupError (List OpenTag) :=
  match (tagName body).toList with
  | '/' :: name =>
    match strip isBlank name, tags with
    | [], [] => .error (.nothingOpen position)
    | [], tag :: tags => do
      tag.close
      return tags
    | name, tags =>
      let style := Style.normalName (.ofList name)
      match tags.find? (·.name == style) with
      | none => .error (.notOpen (.ofList ('[' :: body ++ [']'])) position)
      | some tag => do
        tag.close
        return tags.eraseP (·.name == style)
  | _ => .ok (.ofBody body :: tags)

/-- The text that remains of pieces behind which some tags are open. -/
def textOf (tags : List OpenTag) : List Piece → Except MarkupError (List Char)
  | [] => .ok []
  | .text cs :: pieces => do
    let rest ← textOf tags pieces
    return withEmoji (withoutEscapes cs) ++ rest
  | .tag position body :: pieces => do
    let tags ← afterTag tags position body
    textOf tags pieces

/-- The text that remains of a text with markup, if that is not faulty. -/
def plainText? (s : String) : Except MarkupError String := do
  let cs ← textOf [] (Piece.ofText s.toList)
  return .ofList cs

/-- A text with markup as it is printed, with a line feed at its end. -/
def printed? (s : String) : Except MarkupError String := do
  let plain ← plainText? s
  return Terminal.printed plain

end Markup

end CommandTree
