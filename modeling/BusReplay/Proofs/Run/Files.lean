import BusReplay.Run.Program

/-!
# Runs and the files they open

All that the sources of a run take from the file system is what comes of opening them. So a plan is
the same for any two file systems in which its sources open in the same way, whatever else is in
them.
-/

namespace BusReplay.SourceContext

variable {ctx : SourceContext} {files : FileSystem}

theorem run_congr {source : Source} (stdin : Stream)
    (hopen : ∀ path, source = .file path → files.openFile path = ctx.files.openFile path) :
    ({ ctx with files := files } : SourceContext).run stdin source = ctx.run stdin source := by
  have hsource : ({ ctx with files := files } : SourceContext).openSource stdin source =
      ctx.openSource stdin source := by
    cases source with
    | stdin => rfl
    | file path => rw [openSource, openSource, hopen path rfl]
  unfold run
  rw [hsource]

/-- Sources that open in the same way are processed in the same way. -/
theorem runAll_congr {sources : List Source} (stdin : Stream)
    (hopen : ∀ path, .file path ∈ sources → files.openFile path = ctx.files.openFile path) :
    ({ ctx with files := files } : SourceContext).runAll stdin sources =
      ctx.runAll stdin sources := by
  induction sources generalizing stdin with
  | nil => rfl
  | cons source sources ih =>
    have hsource : ∀ path, source = .file path → files.openFile path = ctx.files.openFile path :=
      fun path heq ↦ hopen path (heq ▸ List.mem_cons_self)
    have hrest : ∀ path, .file path ∈ sources → files.openFile path = ctx.files.openFile path :=
      fun path hpath ↦ hopen path (List.mem_cons_of_mem source hpath)
    -- What is left of standard input does not depend on any file.
    have hstdin : ({ ctx with files := files } : SourceContext).stdinAfter stdin source =
        ctx.stdinAfter stdin source := rfl
    rw [runAll, runAll, run_congr stdin hsource, hstdin, ih _ hrest]

/-- A plan depends on the files that are its sources only. -/
theorem plan_congr {sources : List Source} (stdin : Stream)
    (hopen : ∀ path, .file path ∈ sources → files.openFile path = ctx.files.openFile path) :
    ({ ctx with files := files } : SourceContext).plan stdin sources = ctx.plan stdin sources := by
  unfold plan
  rw [runAll_congr stdin hopen]
  rfl

end BusReplay.SourceContext
