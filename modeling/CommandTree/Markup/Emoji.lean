import CommandTree.Markup.EmojiName
import CommandTree.Markup.Style
/-!
Emoji that are written by their names.

A name stands between two colons without a blank, in any letter case, and may end in a hyphen and the word `emoji` or
`text`, which picks one of the two forms of a character. What names no emoji stays as it is, and its second colon does
not begin a name.

* `namedEmoji?` is the emoji of what stands between two colons;
* `withEmoji` is a text with emoji in place of their names.
-/

namespace CommandTree.Markup

open Text

/-- The endings of names that pick a form, and the characters that do so in the text. -/
def forms : List (List Char × Char) := [("-emoji".toList, '\uFE0F'), ("-text".toList, '\uFE0E')]

/-- The emoji of what stands between two colons. -/
def namedEmoji? (cs : List Char) : Option (List Char) :=
  match forms.find? fun form => form.1.isSuffixOf cs with
  | some (ending, mark) =>
    (emoji? (inSmallLetters (.ofList (cs.take (cs.length - ending.length))))).map (· ++ [mark])
  | none => emoji? (inSmallLetters (.ofList cs))

/-- A text with emoji in place of their names; `name` holds the characters since an open colon, the last one first. -/
def withEmojiFrom (name : Option (List Char)) : List Char → List Char
  | [] => match name with
    | some letters => ':' :: letters.reverse
    | none => []
  | c :: cs =>
    match name with
    | none => if c = ':' then withEmojiFrom (some []) cs else c :: withEmojiFrom none cs
    | some letters =>
      if c = ':' then (namedEmoji? letters.reverse).getD (':' :: letters.reverse ++ [':']) ++ withEmojiFrom none cs
      else if isBlank c then ':' :: letters.reverse ++ c :: withEmojiFrom none cs
      else withEmojiFrom (some (c :: letters)) cs

/-- A text with emoji in place of their names. -/
def withEmoji (cs : List Char) : List Char := withEmojiFrom none cs

end CommandTree.Markup
