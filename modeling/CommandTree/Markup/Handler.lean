import CommandTree.Markup.Expression.Reading
import CommandTree.Text.Blank
/-!
The handlers of tags.

A tag for an event may name its handler behind an equals sign, and in round brackets behind the name the arguments for
it. The arguments must have a value by themselves; without a name the whole is such a value, and without brackets there
are no arguments.

* `Handler.arguments?` are the arguments for a handler, where it has the form of a name with arguments;
* `Handler.check` decides whether a handler is in order.
-/

namespace CommandTree.Markup

open Text

/-- Why a handler is not in order. -/
inductive HandlerFault where
  | unreadable (given handler : String) (fault : Expression.Fault)
  | valueless (handler : String) (fault : Expression.ValueFault)
  deriving DecidableEq, Repr

/-- The wording of a fault of a handler. -/
def HandlerFault.message : HandlerFault → String
  | unreadable given handler fault => s!"error parsing {shown given} in {shown handler}; {fault.message}"
  | valueless handler fault => s!"error parsing {shown handler}; {fault.message}"

namespace Handler

/-- Whether a character may belong to the name of a handler. -/
def isNamePart (c : Char) : Bool := isAlphanumeric c || c == '_' || c == '.'

/-- The arguments of a handler that is a name with or without brackets behind it. -/
def arguments? (cs : List Char) : Option (List Char) :=
  match cs.dropWhile isNamePart with
  | [] => some ['(', ')']
  | '(' :: rest => if rest.getLast? = some ')' ∧ '\n' ∉ rest then some ('(' :: rest) else none
  | _ => none

/-- A name without brackets is called without arguments. -/
theorem arguments?_of_forall_isNamePart {cs : List Char} (h : ∀ c ∈ cs, isNamePart c) :
    arguments? cs = some ['(', ')'] := by
  have none_left : cs.dropWhile isNamePart = [] := by
    induction cs with
    | nil => rfl
    | cons c cs ih =>
      rw [List.dropWhile_cons, if_pos (h c List.mem_cons_self)]
      exact ih fun d hd => h d (List.mem_cons_of_mem c hd)
  rw [arguments?, none_left]

/-- Decides whether a handler is in order. -/
def check (handler : String) : Except HandlerFault Unit :=
  let stripped := strip isBlank handler.toList
  let given := (arguments? stripped).getD stripped
  if '\x00' ∈ given then .error (.valueless handler .zeroCharacter)
  else match Expression.ofText given with
  | .error fault => .error (.unreadable (.ofList given) handler fault)
  | .ok tree => tree.checkValue.mapError (.valueless handler)

end Handler

end CommandTree.Markup
