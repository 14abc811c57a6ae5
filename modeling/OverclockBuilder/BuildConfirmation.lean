import OverclockBuilder.BuildRun
import OverclockBuilder.MenuConfirmation

namespace OverclockBuilder

open RadixText BashText ShellFlow BytePacking FailFast

/-!
# What a session confirms

The menus end every session, either in front of the build or with the script.
A session that ends the script builds nothing; a session in front of the build
was confirmed on the screen exactly when no number of MHz was accepted that
`$(( ))` could not read at a point where that matters.
-/

/-- The menus end in front of the build, cancelled, or at the end of input. -/
theorem runMenus_flow
    (stock : Stock)
    (lines : List Text) :
    (runMenus stock lines).1 = .next ∨
      (runMenus stock lines).1 = .exit 0 ∨
        (runMenus stock lines).1 = .exit 1 := by
  obtain ⟨last, flow, -⟩ := runMenus_reachable stock lines
  rw [flow]
  cases last with
  | ask prompt =>
      exact .inr (.inr rfl)
  | cancelled =>
      exact .inr (.inl rfl)
  | build =>
      exact .inl rfl

/-- In front of the build, the state is a reachable build state. -/
theorem runMenus_build
    {stock : Stock}
    {lines : List Text}
    (chosen : (runMenus stock lines).1 = .next) :
    Reachable stock .build
      (runMenus stock lines).2.vars (runMenus stock lines).2.log := by
  obtain ⟨last, flow, reached⟩ := runMenus_reachable stock lines
  rw [chosen] at flow
  cases last with
  | ask prompt =>
      cases flow
  | cancelled =>
      cases flow
  | build =>
      exact reached

/-- A run whose menus end the script runs no command behind them. -/
theorem builderRun_unchosen
    {surroundings : Surroundings}
    {stock : Stock}
    {lines : List Text}
    {before after : Files}
    {ending : Ending}
    (run : BuilderRun surroundings stock lines before after ending)
    (unchosen : (runMenus stock lines).1 ≠ .next) :
    after = before ∧
      ((∃ code, ending = .leftMenus code) ∨
        ∃ command ∈ prepareCommands, ending = .stopped command) := by
  cases run with
  | unprepared prepare =>
      exact ⟨runs_inWork prepareCommands_inWork prepare,
        .inr ⟨_, prepare.stopped_mem, rfl⟩⟩
  | leftMenus prepare left =>
      exact ⟨runs_inWork prepareCommands_inWork prepare, .inl ⟨_, rfl⟩⟩
  | built prepare chosen build =>
      exact (unchosen chosen).elim

/--
Every sequence of lines ends the menus after a prefix of it.  If the build
follows, the last line was `y` or `Y` at a summary and the applied values are
the ones it showed exactly when some accepted number of MHz was readable to
`$(( ))` and all those accepted below the summary were.  Otherwise the script
ends without a command behind the menus and without a change to any file.
-/
theorem runMenus_confirmed_iff
    (stock : Stock)
    (lines : List Text) :
    ((runMenus stock lines).1 = .next ∨
        (runMenus stock lines).1 = .exit 0 ∨
          (runMenus stock lines).1 = .exit 1) ∧
      answeredLines (runMenus stock lines).2.log ++
          (runMenus stock lines).2.input =
        lines ∧
      ((runMenus stock lines).1 = .next →
        (Confirmed stock (runMenus stock lines).2 ↔
          Usable (runMenus stock lines).2.log ∧
            SummaryReadable (runMenus stock lines).2.log)) ∧
      ((runMenus stock lines).1 ≠ .next →
        ∀ surroundings before after ending,
          BuilderRun surroundings stock lines before after ending →
            after = before ∧
              ((∃ code, ending = .leftMenus code) ∨
                ∃ command ∈ prepareCommands,
                  ending = .stopped command)) := by
  refine ⟨runMenus_flow stock lines, answeredLines_runMenus stock lines,
    ?_, ?_⟩
  · intro chosen
    exact confirmed_iff (runMenus_build chosen)
  · intro unchosen surroundings before after ending run
    exact builderRun_unchosen run unchosen

/-- Answers that abandon the summary instead of confirming it. -/
def abandonedLines : List Text :=
  ["50".toList, "y".toList, "n".toList, "k".toList, "k".toList, "k".toList,
    "08".toList]

/-- Typing `08` below the summary starts the build. -/
theorem runMenus_unconfirmed :
    (runMenus readmeStock abandonedLines).1 = .next ∧
      ¬ Confirmed readmeStock (runMenus readmeStock abandonedLines).2 := by
  have chosen : (runMenus readmeStock abandonedLines).1 = .next := by
    decide +kernel
  have last :
      (runMenus readmeStock abandonedLines).2.log.getLast? =
        some (.answered .summaryNewMhz "08".toList) := by
    decide +kernel
  refine ⟨chosen, ?_⟩
  rintro ⟨earlier, shown, line, log, -⟩
  rw [log] at last
  simp at last

end OverclockBuilder
