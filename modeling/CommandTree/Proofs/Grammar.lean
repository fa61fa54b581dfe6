import CommandTree.Parser
import CommandTree.Text.Split
import Mathlib.Tactic.Common
/-!
The grammar of command files, over tokens.

A node is a name, for an argument a type reference with its parameters, and then a semicolon or a block of nodes. The
grammar says which tokens a list of nodes has, whatever a parser does to find that out.

* `Refers`: a type reference names a primitive type, and `Parameters` are the tokens that belong to it;
* `Head` is a node up to its semicolon or its block;
* `Forest` are the tokens of a list of nodes, `Tree` those of one node;
* `Forest.append` puts lists of nodes together.
-/

namespace CommandTree.Grammar

/-! ### Productions -/

/-- A type reference has exactly two parts between colons, neither is empty, and they name a primitive type. -/
def Refers (key : String) (p : Primitive) : Prop :=
  ∃ space name : String, Text.splitAt ':' key.toList = [space.toList, name.toList] ∧ space ≠ "" ∧ name ≠ "" ∧
    space = ArgumentType.builtinSpace ∧ name = p.name

/-- The tokens behind a type reference, with the argument type that they make of it. -/
inductive Parameters : Primitive → List Token → ArgumentType → Prop
  | bool : Parameters .bool [] .bool
  | string (kind : StringKind) : Parameters .string [.string kind.name] (.string kind)
  | unbounded (t : NumericType) : Parameters (.numeric t) [] (.numeric t t.lowest t.highest)
  | lower {t : NumericType} {x : String} {a : t.Bound} (first : t.readBound x = .ok a) :
      Parameters (.numeric t) [.string x] (.numeric t a t.highest)
  | both {t : NumericType} {x y : String} {a b : t.Bound} (first : t.readBound x = .ok a)
      (second : t.readBound y = .ok b) : Parameters (.numeric t) [.string x, .string y] (.numeric t a b)

/-- The tokens of a node up to its semicolon or its block, with its name and its argument type. -/
inductive Head : String → Option ArgumentType → List Token → Prop
  | literal (name : String) : Head name none [.string name]
  | argument {name key : String} {p : Primitive} {ps : List Token} {type : ArgumentType} (refers : Refers key p)
      (parameters : Parameters p ps type) : Head name (some type) (.string name :: .string key :: ps)

/-- The tokens of a list of nodes: a node ends with a semicolon, and then it has no children, or its children stand in
a block. -/
inductive Forest : List Token → List Node → Prop
  | nil : Forest [] []
  | leaf {name : String} {type : Option ArgumentType} {hd ts : List Token} {ns : List Node} (head : Head name type hd)
      (more : Forest ts ns) : Forest (hd ++ .statementEnd :: ts) (.node name type [] :: ns)
  | block {name : String} {type : Option ArgumentType} {hd us ts : List Token} {children ns : List Node}
      (head : Head name type hd) (inside : Forest us children) (more : Forest ts ns) :
      Forest (hd ++ .openBlock :: (us ++ .closeBlock :: ts)) (.node name type children :: ns)

/-- The tokens of a node. -/
def Tree (ts : List Token) (n : Node) : Prop := Forest ts [n]

variable {ts us : List Token} {ms ns : List Node} {name : String} {type : Option ArgumentType}

/-- Lists of nodes may be put together. -/
lemma Forest.append (h : Forest ts ms) (h' : Forest us ns) : Forest (ts ++ us) (ms ++ ns) := by
  induction h with
  | nil => exact h'
  | leaf head _ ih => simpa using Forest.leaf head ih
  | block head inside _ _ ih => simpa using Forest.block head inside ih

/-- A head begins with the name. -/
lemma Head.exists_tail {hd : List Token} (h : Head name type hd) : ∃ tail, hd = .string name :: tail := by
  cases h with
  | literal => exact ⟨[], rfl⟩
  | argument => exact ⟨_, rfl⟩

end CommandTree.Grammar
