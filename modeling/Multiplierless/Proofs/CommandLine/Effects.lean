import Multiplierless.CommandLine.Report
import Multiplierless.Proofs.Decomposition
import Multiplierless.Proofs.Source.Emission

/-!
What a run of the program does to the files around it. The only command that touches a
file is the one that writes the routine, when it is given a path, and it touches the
file at that path. Main statement: a run that leaves a file behind has done nothing
else, and the file holds what the same arguments without the path print.
-/

namespace Multiplierless.CommandLine

/-- The option that an item is about. -/
def Item.switch? : Item → Option Switch
  | .option switch _ => some switch
  | .flag switch => some switch
  | .operand _ => none
  | .stop _ => none

@[simp] theorem Item.switch?_option (switch : Switch) (value : String) :
    (Item.option switch value).switch? = some switch := rfl

@[simp] theorem Item.switch?_operand (text : String) : (Item.operand text).switch? = none := rfl

@[simp] theorem Item.switch?_stop (reason : Stop) : (Item.stop reason).switch? = none := rfl

/-- The arguments of a command without one of its options: what names the option goes,
together with the value if that stands by itself. -/
def withoutSwitch (grammar : Grammar) (switch : Switch) : List String → List String
  | [] => []
  | argument :: rest =>
      match readArgument grammar argument with
      | .item item =>
          if item.switch? = some switch then withoutSwitch grammar switch rest
          else argument :: withoutSwitch grammar switch rest
      | .endOfOptions => argument :: rest
      | .wantsValue other =>
          match rest with
          | [] => [argument]
          | value :: rest =>
              if isValue value then
                if other = switch then withoutSwitch grammar switch rest
                else argument :: value :: withoutSwitch grammar switch rest
              else argument :: value :: rest

/-- The arguments that are left mean what they meant before. -/
theorem items_withoutSwitch (grammar : Grammar) (switch : Switch) (arguments : List String) :
    items grammar (withoutSwitch grammar switch arguments) =
      (items grammar arguments).filter fun item => item.switch? ≠ some switch := by
  fun_induction withoutSwitch grammar switch arguments with
  | case1 => rfl
  | case2 argument rest item hRead hSwitch ih => simp [items, hRead, hSwitch, ih]
  | case3 argument rest item hRead hSwitch ih => simp [items, hRead, hSwitch, ih]
  | case4 argument rest hRead =>
      -- Behind two dashes there are operands only.
      have hOperands : (rest.map Item.operand).filter (fun item => item.switch? ≠ some switch) =
          rest.map Item.operand :=
        List.filter_eq_self.mpr (by simp)
      simp only [items, hRead, hOperands]
  | case5 argument other hRead => simp [items, hRead]
  | case6 argument value rest hValue hRead ih => simp [items, hRead, hValue, ih]
  | case7 argument other hRead value rest hValue hSwitch ih =>
      simp [items, hRead, hValue, hSwitch, ih]
  | case8 argument other hRead value rest hValue => simp [items, hRead, hValue]

namespace EmitDraft

/-- The draft without an output path. -/
def toStream (draft : EmitDraft) : EmitDraft :=
  { draft with output := none }

/-- An item about the path changes nothing else, and no other item looks at it. -/
theorem add_toStream {draft after : EmitDraft} {item : Item} (hAdd : draft.add item = .ok after) :
    if item.switch? = some .output then after.toStream = draft.toStream
    else draft.toStream.add item = .ok after.toStream := by
  cases item with
  | option switch value =>
      cases switch with
      | width => exact absurd hAdd (by simp [add])
      | harness => exact absurd hAdd (by simp [add])
      | lang =>
          simp only [add] at hAdd
          split at hAdd
          · exact absurd hAdd (by simp)
          · next hLang =>
              split at hAdd
              · next lang hNamed =>
                  rw [← Except.ok.inj hAdd]
                  simp [add, toStream, hLang, hNamed]
              · exact absurd hAdd (by simp)
      | output =>
          simp only [add] at hAdd
          split at hAdd
          · exact absurd hAdd (by simp)
          · split at hAdd
            · exact absurd hAdd (by simp)
            · rw [← Except.ok.inj hAdd]
              rfl
  | flag switch =>
      cases switch with
      | width => exact absurd hAdd (by simp [add])
      | lang => exact absurd hAdd (by simp [add])
      | output => exact absurd hAdd (by simp [add])
      | harness =>
          simp only [add] at hAdd
          split at hAdd
          · exact absurd hAdd (by simp)
          · next hHarness =>
              rw [← Except.ok.inj hAdd]
              simp [add, toStream, hHarness, Item.switch?]
  | operand argument => exact absurd hAdd (by simp [add])
  | stop reason => exact absurd hAdd (by simp [add])

/-- Without the items about the path the draft is the same but for the path. -/
theorem addAll_toStream {draft result : EmitDraft} {items : List Item}
    (hAdd : addAll add draft items = .ok result) :
    addAll add draft.toStream (items.filter fun item => item.switch? ≠ some .output) =
      .ok result.toStream := by
  induction items generalizing draft with
  | nil => exact congrArg _ (congrArg toStream (Except.ok.inj hAdd))
  | cons item rest ih =>
      obtain ⟨after, hItem, hRest⟩ := Except.bind_eq_ok_iff.mp hAdd
      have hStream := add_toStream hItem
      by_cases hSwitch : item.switch? = some .output
      · rw [if_pos hSwitch] at hStream
        rw [List.filter_cons_of_neg (by simp [hSwitch]), ← hStream]
        exact ih hRest
      · rw [if_neg hSwitch] at hStream
        rw [List.filter_cons_of_pos (by simp [hSwitch])]
        exact Except.bind_eq_ok_iff.mpr ⟨_, hStream, ih hRest⟩

theorem finish_eq_ok {draft : EmitDraft} {command : Command}
    (hFinish : draft.finish = .ok command) :
    ∃ lang, draft.lang = some lang ∧
      command = .emit { lang := lang, harness := draft.harness } draft.output := by
  unfold finish at hFinish
  split at hFinish
  · exact absurd hFinish (by simp)
  · next lang hLang => exact ⟨lang, hLang, (Except.ok.inj hFinish).symm⟩

end EmitDraft

namespace Command

/-- Only the arguments that begin with the command's name ask for the routine. -/
theorem emit_of_read {arguments : List String} {e : Emitter} {output : Option String}
    (hRead : read arguments = .ok (.emit e output)) :
    ∃ options draft, arguments = "emit" :: options ∧
      addAll EmitDraft.add {} (items EmitDraft.grammar options) = .ok draft ∧
      draft.finish = .ok (.emit e output) := by
  unfold read at hRead
  split at hRead
  · exact absurd hRead (by simp)
  · next options =>
      obtain ⟨draft, -, hFinish⟩ := Except.bind_eq_ok_iff.mp hRead
      unfold EvalDraft.finish at hFinish
      split at hFinish <;> exact absurd hFinish (by simp)
  · next options =>
      obtain ⟨-, -, hListing⟩ := Except.bind_eq_ok_iff.mp hRead
      exact absurd hListing (by simp [pure, Except.pure])
  · next options =>
      obtain ⟨draft, hAdd, hFinish⟩ := Except.bind_eq_ok_iff.mp hRead
      exact ⟨options, draft, rfl, hAdd, hFinish⟩
  · exact absurd hRead (by simp)
  · split at hRead <;> exact absurd hRead (by simp)

/-- The same arguments without the path ask for the same routine on the output stream. -/
theorem read_withoutSwitch {options : List String} {e : Emitter} {output : Option String}
    (hRead : read ("emit" :: options) = .ok (.emit e output)) :
    read ("emit" :: withoutSwitch EmitDraft.grammar .output options) = .ok (.emit e none) := by
  obtain ⟨same, draft, hSame, hAdd, hFinish⟩ := emit_of_read hRead
  obtain ⟨-, rfl⟩ := List.cons.inj hSame
  obtain ⟨lang, hLang, hCommand⟩ := EmitDraft.finish_eq_ok hFinish
  injection hCommand with hEmitter hOutput
  have hItems := EmitDraft.addAll_toStream hAdd
  rw [← items_withoutSwitch] at hItems
  refine Except.bind_eq_ok_iff.mpr ⟨draft.toStream, hItems, ?_⟩
  simp [EmitDraft.finish, EmitDraft.toStream, hLang, hEmitter]

end Command

variable {lang : Language} {harness : Bool} {tree : FileTree} {path : String} {place : Place}

/-- The seven steps can be written in every language. -/
theorem render_neg82 (lang : Language) (harness : Bool) :
    Emitter.render { lang := lang, harness := harness } .neg82 =
      .ok (Emitter.source { lang := lang, harness := harness } .neg82) := by
  have hConstant : Sequence.neg82.constant = multiplier.resize := by
    rw [Sequence.constant_eq, Sequence.multiple_neg82]
    rfl
  have hName : Source.isName "n" = true := by decide
  have hFresh : ∀ step ∈ Sequence.neg82.steps, step.dst.text ≠ "n" := by decide
  exact Emitter.render_eq_ok_iff.mpr ⟨⟨Sequence.fits_neg82 .w32, hConstant, hName, hFresh⟩, rfl⟩

/-- Without a path the source is printed. -/
theorem emitReport_eq (lang : Language) (harness : Bool) :
    emitReport { lang := lang, harness := harness } =
      ⟨0, (Emitter.source { lang := lang, harness := harness } .neg82).toUTF8, .empty, []⟩ := by
  have hEmit := Emitter.emit_of_render (render_neg82 lang harness) .unlimited rfl
  rw [emitReport, hEmit]
  simp [Sink.unlimited]

/-- A file at the path gets the source, and nothing is printed. -/
theorem saveReport_of_file (hCreate : tree.create path = .ok (.file place)) :
    saveReport tree { lang := lang, harness := harness } path =
      ⟨0, .empty, .empty,
        [(place, (Emitter.source { lang := lang, harness := harness } .neg82).toUTF8)]⟩ := by
  have hEmit := Emitter.emit_of_render (render_neg82 lang harness) .unlimited rfl
  rw [saveReport, hCreate]
  simp only [writtenReport, Target.sink, hEmit]
  simp [Sink.unlimited, Target.printed, Target.saved]

/-- Whatever the verdict, the target has what the sink took. -/
theorem files_writtenReport (e : Emitter) (path : String) (target : Target) (sink : Sink) :
    (writtenReport e path target sink).files =
      target.saved (e.emit .neg82 sink).sink.stored := by
  unfold writtenReport
  dsimp only
  split <;> rfl

theorem exit_writtenReport (e : Emitter) (path : String) (target : Target) (sink : Sink) :
    (writtenReport e path target sink).exit = 0 ∨
      (writtenReport e path target sink).exit = 1 := by
  unfold writtenReport
  dsimp only
  split
  · exact .inl rfl
  · exact .inr rfl

/-- Only a path that leads to a file leaves one behind. -/
theorem create_of_files_saveReport {e : Emitter} (hFiles : (saveReport tree e path).files ≠ []) :
    ∃ place, tree.create path = .ok (.file place) := by
  unfold saveReport at hFiles
  cases hCreate : tree.create path with
  | error cause =>
      rw [hCreate] at hFiles
      exact absurd rfl hFiles
  | ok target =>
      cases target with
      | file place => exact ⟨place, rfl⟩
      | device d =>
          rw [hCreate] at hFiles
          exact absurd (files_writtenReport ..) hFiles

/-- A command that was understood succeeds or fails, it is never a usage error. -/
theorem exit_report (tree : FileTree) (command : Command) :
    (command.report tree).exit = 0 ∨ (command.report tree).exit = 1 := by
  cases command with
  | eval w numbers =>
      rw [Command.report, evalReport]
      split
      · exact .inl rfl
      · exact .inr rfl
  | listing => exact .inl rfl
  | emit e output =>
      cases output with
      | none =>
          rw [Command.report, emitReport]
          split
          · exact .inl rfl
          · exact .inr rfl
      | some path =>
          rw [Command.report, saveReport]
          split
          · exact .inr rfl
          · exact exit_writtenReport ..

/-- No other command leaves a file behind, and this one only with a path. -/
theorem emit_of_files_report {command : Command} (hFiles : (command.report tree).files ≠ []) :
    ∃ e path place, command = .emit e (some path) ∧ tree.create path = .ok (.file place) := by
  cases command with
  | eval w numbers =>
      rw [Command.report, evalReport] at hFiles
      split at hFiles <;> exact absurd rfl hFiles
  | listing => exact absurd rfl hFiles
  | emit e output =>
      cases output with
      | none =>
          rw [Command.report, emitReport] at hFiles
          split at hFiles <;> exact absurd rfl hFiles
      | some path =>
          obtain ⟨place, hCreate⟩ := create_of_files_saveReport hFiles
          exact ⟨e, path, place, rfl, hCreate⟩

/-- A run without a command touches no file, and a usage error prints nothing. -/
theorem report_stop (stop : Stop) :
    (stop.report.exit = 0 ∨ stop.report.exit = 2 ∧ stop.report.stdout = .empty) ∧
      stop.report.files = [] := by
  cases stop with
  | help => exact ⟨.inl rfl, rfl⟩
  | usage e => exact ⟨.inr ⟨rfl, rfl⟩, rfl⟩

/-- With a path that leads to a file the command does one thing: the file gets the
source, whatever was in it. -/
theorem run_of_emit_to_file {arguments : List String} {e : Emitter}
    (hRead : Command.read arguments = .ok (.emit e (some path)))
    (hCreate : tree.create path = .ok (.file place)) :
    ∃ (lang : Language) (harness : Bool) (options : List String),
      e = { lang := lang, harness := harness } ∧ arguments = "emit" :: options ∧
      run tree arguments = ⟨0, .empty, .empty, [(place, (e.source .neg82).toUTF8)]⟩ := by
  obtain ⟨options, draft, hArguments, -, hFinish⟩ := Command.emit_of_read hRead
  obtain ⟨lang, -, hCommand⟩ := EmitDraft.finish_eq_ok hFinish
  injection hCommand with hEmitter
  refine ⟨lang, draft.harness, options, hEmitter, hArguments, ?_⟩
  rw [run_of_read hRead, hEmitter]
  exact saveReport_of_file hCreate

/-- Two as the exit code stands for arguments that were not understood. -/
theorem exit_run (tree : FileTree) (arguments : List String) :
    (run tree arguments).exit = 0 ∨ (run tree arguments).exit = 1 ∨
      (run tree arguments).exit = 2 ∧ (run tree arguments).stdout = .empty ∧
        (run tree arguments).files = [] := by
  cases hRead : Command.read arguments with
  | error stop =>
      rw [run_of_stop hRead]
      obtain ⟨hZero | ⟨hTwo, hStdout⟩, hFiles⟩ := report_stop stop
      · exact .inl hZero
      · exact .inr (.inr ⟨hTwo, hStdout, hFiles⟩)
  | ok command =>
      rw [run_of_read hRead]
      rcases exit_report tree command with hZero | hOne
      · exact .inl hZero
      · exact .inr (.inl hOne)

theorem emit_of_files_run {arguments : List String} (hFiles : (run tree arguments).files ≠ []) :
    ∃ e path place, Command.read arguments = .ok (.emit e (some path)) ∧
      tree.create path = .ok (.file place) := by
  cases hRead : Command.read arguments with
  | error stop =>
      rw [run_of_stop hRead] at hFiles
      exact absurd (report_stop stop).2 hFiles
  | ok command =>
      rw [run_of_read hRead] at hFiles
      obtain ⟨e, path, place, rfl, hCreate⟩ := emit_of_files_report hFiles
      exact ⟨e, path, place, rfl, hCreate⟩

/-- Files are left alone, with one exception. In that case the whole report is known,
and it is the report of the same arguments without the path, with the file in the place
of the output stream. Which paths lead to a file is for the tree to say. -/
theorem files_written_only_by_emit (tree : FileTree) (arguments : List String) :
    ((run tree arguments).exit = 0 ∨ (run tree arguments).exit = 1 ∨
      (run tree arguments).exit = 2) ∧
    ((run tree arguments).exit = 2 →
      (run tree arguments).stdout = .empty ∧ (run tree arguments).files = []) ∧
    ((run tree arguments).files ≠ [] →
      ∃ (lang : Language) (harness : Bool) (options : List String) (path source : String)
        (place : Place),
        arguments = "emit" :: options ∧
        Command.read arguments = .ok (.emit { lang := lang, harness := harness } (some path)) ∧
        tree.create path = .ok (.file place) ∧
        Emitter.render { lang := lang, harness := harness } .neg82 = .ok source ∧
        run tree arguments = ⟨0, .empty, .empty, [(place, source.toUTF8)]⟩ ∧
        Command.read ("emit" :: withoutSwitch EmitDraft.grammar .output options) =
          .ok (.emit { lang := lang, harness := harness } none) ∧
        run tree ("emit" :: withoutSwitch EmitDraft.grammar .output options) =
          ⟨0, source.toUTF8, .empty, []⟩) ∧
    ∀ e path place, Command.read arguments = .ok (.emit e (some path)) →
      tree.create path = .ok (.file place) → (run tree arguments).files ≠ [] := by
  refine ⟨?_, ?_, ?_, ?_⟩
  · rcases exit_run tree arguments with hZero | hOne | ⟨hTwo, -, -⟩
    · exact .inl hZero
    · exact .inr (.inl hOne)
    · exact .inr (.inr hTwo)
  · intro hExit
    rcases exit_run tree arguments with hZero | hOne | ⟨-, hNothing⟩
    · exact absurd (hZero.symm.trans hExit) (by decide)
    · exact absurd (hOne.symm.trans hExit) (by decide)
    · exact hNothing
  · intro hFiles
    obtain ⟨e, path, place, hRead, hCreate⟩ := emit_of_files_run hFiles
    obtain ⟨lang, harness, options, rfl, rfl, hRun⟩ := run_of_emit_to_file hRead hCreate
    have hStream := Command.read_withoutSwitch hRead
    refine ⟨lang, harness, options, path, _, place, rfl, hRead, hCreate,
      render_neg82 lang harness, hRun, hStream, ?_⟩
    rw [run_of_read hStream]
    exact emitReport_eq lang harness
  · intro e path place hRead hCreate
    obtain ⟨lang, harness, options, -, -, hRun⟩ := run_of_emit_to_file hRead hCreate
    rw [hRun]
    simp

/-- A file that was there before is filled again, and the path is attached to the
option. -/
theorem files_written_only_by_emit_rust :
    ∃ tree source, tree = ⟨["work"], [(["work"], .directory),
        (["work", "old.txt"], .file "an older text".toUTF8)]⟩ ∧
      source = Text.unlines
        ["// Multiply by -82 using the fewest operations",
         "pub fn multiply(n: i32) -> i32 \x7b",
         "    let t1 = n << 3;",
         "    let t2 = t1.wrapping_sub(n);",
         "    let t3 = t2 << 2;",
         "    let t4 = t3.wrapping_sub(t2);",
         "    let t5 = t4 << 1;",
         "    let t6 = n.wrapping_sub(t5);",
         "    let t7 = t6 << 1;",
         "    t7",
         "\x7d"] ∧
      Emitter.render { lang := .rust } .neg82 = .ok source ∧
      run tree ["emit", "-oold.txt", "--lang=rust"] =
        ⟨0, .empty, .empty, [(["work", "old.txt"], source.toUTF8)]⟩ ∧
      run tree ["emit", "--lang=rust"] = ⟨0, source.toUTF8, .empty, []⟩ := by
  obtain ⟨-, -, hFiles, hWrites⟩ := files_written_only_by_emit
    ⟨["work"], [(["work"], .directory), (["work", "old.txt"], .file "an older text".toUTF8)]⟩
    ["emit", "-oold.txt", "--lang=rust"]
  obtain ⟨lang, harness, options, path, source, place, hOptions, hRead, hCreate, hRender, hRun, -,
    hStream⟩ := hFiles (hWrites { lang := .rust } "old.txt" ["work", "old.txt"] rfl rfl)
  obtain ⟨hEmitter, hPath⟩ := Command.emit.inj (Except.ok.inj hRead)
  obtain ⟨rfl, rfl, -⟩ := Emitter.mk.inj hEmitter
  obtain rfl := Option.some.inj hPath
  obtain rfl : ["work", "old.txt"] = place := Target.file.inj (Except.ok.inj hCreate)
  obtain ⟨-, rfl⟩ := List.cons.inj hOptions
  have hText : Emitter.source { lang := .rust } .neg82 = source :=
    Except.ok.inj ((render_neg82 .rust false).symm.trans hRender)
  refine ⟨_, source, rfl, ?_, hRender, hRun, hStream⟩
  rw [← hText]
  decide +kernel

end Multiplierless.CommandLine
