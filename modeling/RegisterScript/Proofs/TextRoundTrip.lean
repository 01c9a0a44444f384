import RegisterScript.Proofs.Printing

/-!
# Compiled, printed, compiled again

The script that is printed for compiled blocks has no macros, spells every cell in hexadecimal and
has the tag's setting back among the writes.  Compiled with the same passes it gives the blocks
again: nothing is left for the clean-up to drop, and the setting moves back into the tag from the
very position at which it was printed.
-/

namespace RegisterScript

/-- What is known of the blocks of a script. -/
lemma printable_of_run {passes : Passes} {s : Source} {m : Machine} {bs : List Block}
    (h : Machine.run passes {} s.trace.events = some (m, bs)) :
    ∀ b ∈ bs, IsName b.name ∧ ∀ w ∈ b.unpackedWrites, w.Named := by
  intro b hb
  refine ⟨isName_of_startBlock_mem (Machine.exists_writes_of_mem h hb).1, ?_⟩
  exact (rebuilt_of_run h hb).1.named

/-- **Text round trip.**  If a script compiles to blocks, then these can be printed as a script, and
the script that is printed, under any name, compiles with the same passes to the same blocks. -/
theorem compile_printed (passes : Passes) (canceled : Bool) (s : Source) (bs : List Block)
    (h : (compile passes canceled s).result = .ok bs) (mode : EmitMode) (name : String) :
    let script := emitBlocks { target := .script, mode := mode, passes := passes } bs {}
    script.1.result = .ok (bs.map Block.name) ∧
      (compile passes canceled (Source.ofBytes name script.2.contents .complete)).result
        = .ok bs := by
  intro script
  obtain ⟨-, ⟨m, hrun⟩, hcanceled⟩ := compile_eq_ok_iff.mp h
  have hbody : ∀ b ∈ bs, Format.script.body b = .ok (scriptBytes b) := fun _ _ => rfl
  obtain ⟨hnames, hcontents⟩ : script.1.result = .ok (bs.map Block.name) ∧
      script.2.contents = printed .script (bs.map scriptBytes) := emitBlocks_eq rfl hbody
  refine ⟨hnames, ?_⟩
  obtain ⟨hfault, hevents⟩ := trace_printed name (printable_of_run hrun)
  obtain ⟨m', hrun'⟩ := run_rebuilt (fun b hb => (rebuilt_of_run hrun hb).1)
    (nodup_names_of_run hrun) passes
  have hsame : bs.map (fun b => b.rebuilt.optimized passes) = bs := by
    conv_rhs => rw [← List.map_id bs]
    exact List.map_congr_left fun b hb => (rebuilt_of_run hrun hb).2.2
  rw [hcontents, compile_eq_ok_iff, hevents, hrun', hsame]
  exact ⟨hfault, ⟨m', rfl⟩, hcanceled⟩

/-- A script with a macro that is moved, a store that is overwritten, and a setting that comes late
and is repeated. -/
def Source.late : Source where
  name := "late"
  text := "macro dot { xyz2 1,2,3; }\nlate { rgbaq 1,2,3,4; rgbaq 0x10,0,0,0x80; dot -1,1;
    prim sprite texture; fog 0x80; prim line; }".toList

/-- The blocks of that script. -/
def Source.lateBlocks : List Block :=
  [{ name := "late", tagPrim := some { topology := .sprite, texture := true }, primIndex := 2
     writes := [.rgbaq ⟨0x10, 0, 0, 0x80⟩, .xyz2 ⟨0, 3, 3⟩, .fog 0x80,
       .prim { topology := ⟨1⟩ }] }]

theorem compile_printed_late :
    (compile .all false Source.late).result = .ok Source.lateBlocks ∧
      let script := emitBlocks { target := .script, passes := .all } Source.lateBlocks {}
      script.1.result = .ok ["late"] ∧
        (compile .all false (Source.ofBytes "printed" script.2.contents .complete)).result
          = .ok Source.lateBlocks := by
  have h : (compile .all false Source.late).result = .ok Source.lateBlocks :=
    compile_of_evaluated (by decide +kernel) (by decide +kernel)
  exact ⟨h, compile_printed .all false Source.late Source.lateBlocks h .defs "printed"⟩

end RegisterScript
