import CommandTree.Proofs.Simulation.Streams
import CommandTree.Reader
/-!
Readers of streams that proceed alike.

A report holds the tree or the error, the resolvers that were found, and the last line. So a simulation in which no error
is excused leads to the same report.

* `TokenStream.Simulation.report_cases`: the reports are the same, or an error is excused;
* `Scanner.Simulation.report_eq`: streams of characters whose scanners proceed alike are read alike.
-/

namespace CommandTree

/-- A parse that fails is reported with what its failure comes to. -/
lemma ReadReport.result_ofError (e : TokenError) (s : ParseState) :
    (ofError e s).result = .error (ReadError.ofTokenError e) := by
  unfold ofError
  split <;> rfl

variable {stream stream' : CharStream}

/-- **Streams whose tokens are answered alike are read alike**, by readers that agree on the claimants of keys, unless an
error is excused. -/
theorem TokenStream.Simulation.report_cases {sim : Simulation} (r r' : Reader)
    (lines : sim.KeepsLines) (agree : sim.Agree r.registry r'.registry)
    (h : sim.related (.ofStream stream) (.ofStream stream')) :
    r.parseStream stream = r'.parseStream stream' ∨
      ∃ e, sim.excused e ∧ (r.parseStream stream).result = .error (.ofTokenError e) := by
  have alike : sim.States (.ofStream stream) (.ofStream stream') := ⟨h, rfl⟩
  have parses := sim.parse agree alike
  rw [Reader.parseStream, Reader.parseStream]
  generalize Parser.parse r.registry (.ofStream stream) = left at parses
  generalize Parser.parse r'.registry (.ofStream stream') = right at parses
  cases parses with
  | @ok root s s' behind =>
      obtain ⟨⟨related, resolutions⟩, -⟩ := behind
      left
      simp only [ReadReport.ofTree, ReadReport.resolutionLogs, ParseState.line, lines _ _ related, resolutions]
  | @error e s s' stopped =>
      left
      simp only [ReadReport.ofError, ReadReport.resolutionLogs, stopped.resolutions]
  | @excused e s _ h => exact .inr ⟨e, h, ReadReport.result_ofError e s⟩

/-- **Streams whose scanners proceed alike are read alike**, if no failure is excused. -/
theorem Scanner.Simulation.report_eq {sim : Simulation} (strict : ∀ e, ¬ sim.excused e)
    (h : sim.related ⟨stream, 1⟩ ⟨stream', 1⟩) (r : Reader) : r.parseStream stream = r.parseStream stream' := by
  have either := sim.tokens.report_cases r r sim.keepsLines_tokens
    (sim.keepsLines_tokens.agree_refl _) (sim.streams_ofStream h)
  refine either.resolve_right ?_
  rintro ⟨_, ⟨failure, -, excused⟩, -⟩
  exact strict failure excused

end CommandTree
