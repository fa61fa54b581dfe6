import CommandTree.Reader
/-!
Readers put together step by step.

A builder collects resolvers, of which the ones added first take precedence, and the name of an encoding. It stays
usable after a reader has been built, and readers that were built do not change.

* `ReaderBuilder.add` and `ReaderBuilder.withEncoding` are the steps, `ReaderBuilder.build` gives the reader;
* `ReaderBuilder.addValue` is the step with a value that may be no resolver at all.
-/

namespace CommandTree

/-- Why a value cannot be added as a resolver. -/
inductive BuilderError where
  | missingResolver
  | notResolver (value : Value)

/-- The wording of a refusal to add a value. -/
def BuilderError.message : BuilderError → String
  | missingResolver => "argument type parser must not be None"
  | notResolver v => v.display ++ " does not implement can_resolve/resolve"

/-- A reader that is being put together. -/
structure ReaderBuilder where
  registry : Registry
  encoding : String

namespace ReaderBuilder

/-- A builder to which nothing has been added. -/
def empty : ReaderBuilder := ⟨.empty, Reader.standardEncoding⟩

/-- Adds a resolver, which is asked after those added before. -/
def add (b : ReaderBuilder) (resolver : Resolver) : ReaderBuilder := { b with registry := b.registry.push resolver }

/-- Refuses to add a value that is no resolver. -/
def addValue (_b : ReaderBuilder) : Value → Except BuilderError ReaderBuilder
  | .none => .error .missingResolver
  | v => .error (.notResolver v)

/-- Sets the name of the encoding. -/
def withEncoding (b : ReaderBuilder) (encoding : String) : ReaderBuilder := { b with encoding }

/-- The reader built so far. -/
def build (b : ReaderBuilder) : Reader := ⟨b.registry, b.encoding⟩

/-- The reader that knows the primitive types alone is built in three steps. -/
theorem build_standard (encoding : String) :
    ((empty.add (.primitive ArgumentType.builtinSpace)).withEncoding encoding).build = .standard encoding := rfl

end ReaderBuilder

end CommandTree
