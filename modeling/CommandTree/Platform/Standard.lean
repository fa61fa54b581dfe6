import CommandTree.Codec.Standard
import CommandTree.CommandLine.Options.Standard
import CommandTree.Platform
import CommandTree.Settings.Environment
import CommandTree.Terminal.Console
/-!
The platform of the program.

* `Platform.standard` has the known codecs, settings in environment variables of their names, options behind hyphens, a
  terminal, and a call stack of `CallStack.standard`.
-/

namespace CommandTree

/-- The call stack. A few of its frames are in use before a tree of labels is built, and a few more are needed to make a
branch of a label. -/
def CallStack.standard : CallStack := ⟨970, fun _ => 4⟩

/-- The platform. -/
def Platform.standard : Platform where
  codecs := .standard
  loader := .standard
  arguments := .standard
  console := .terminal
  stack := .standard

end CommandTree
