import UnifiedModelBenchmark.Properties.Parse
import UnifiedModelBenchmark.Properties.Dict
import UnifiedModelBenchmark.Properties.Drivers

/-!
# The shapes that the ncnn driver indexes

The driver indexes the shape of every input of the model, as the dictionary has it, and nothing
stands between the flag and the index: neither the code of the parser nor the length of the shape
is looked at. Which shapes are indexed is therefore a matter of the flag alone.
-/

namespace UnifiedModelBenchmark.Ncnn

open Infra Infra.Cxx Program Spec

variable {α : Type} [Double α]

/-! ## Only the shapes of the inputs are indexed -/

/-- An event that is no index, or the index of the shape of an input. -/
def OfInput (net : Net) (inputTensorsInfo : MTensorDict) (e : Event) : Prop :=
  ∀ name shape, e = .indexShape name shape →
    name ∈ net.inputNames ∧ shape = inputTensorsInfo.queryNcnnShapeInfo name

section

variable {net : Net} {inputTensorsInfo : MTensorDict}

theorem emits_indexShape {name : Str} (h : name ∈ net.inputNames) :
    Emits (OfInput net inputTensorsInfo)
      (indexShape name (inputTensorsInfo.queryNcnnShapeInfo name)) := by
  unfold indexShape
  refine (Emits.emit ?_).bind fun _ => ?_
  · intro name' shape he
    obtain ⟨rfl, rfl⟩ := Event.indexShape.inj he
    exact ⟨h, rfl⟩
  · split
    · exact Emits.pure _
    · exact Emits.stop _

theorem emits_logInputs : Emits (OfInput net inputTensorsInfo)
    (net.inputNames.zipIdx.forM (logInput inputTensorsInfo)) := by
  refine Emits.forM fun input hinput => ?_
  exact (emits_indexShape (List.fst_mem_of_mem_zipIdx hinput)).bind fun _ => Emits.info _

theorem emits_inference :
    Emits (OfInput net inputTensorsInfo) (inference net inputTensorsInfo) := by
  refine Emits.bind (Emits.forM fun name hname => ?_) fun _ => Emits.forM fun name _ => ?_
  · exact (emits_indexShape hname).bind fun _ => Emits.emit fun _ _ he => by cases he
  · exact Emits.emit fun _ _ he => by cases he

end

section

variable {Event : Type} [Clocked Event] {P : Event → Prop}

theorem emits_performOp (hclock : P Clocked.readClock) (p : MyProfiler) (op : ProfilerOp) :
    Emits P (p.performOp op) := by
  have hnow : Emits P (MyProfiler.now : Program Stop Event Int) :=
    (Emits.emit hclock).bind fun _ => Emits.readClock
  unfold MyProfiler.performOp
  refine Emits.bind (Emits.ite hnow (Emits.pure _)) fun now => ?_
  cases p.exec now 0 op with
  | ok p' => exact Emits.pure _
  | error e => exact Emits.stop _

/-- Measuring adds no event but its readings of the clock to those of the inference. -/
theorem emits_measured (hclock : P Clocked.readClock) (android : Bool)
    {inference : Program Stop Event Unit} (h : Emits P inference) (p : MyProfiler) :
    Emits P (measured (α := α) android inference p) :=
  (Emits.foldlM (emits_performOp hclock) _ _).bind fun _ => h.bind fun _ =>
    (Emits.foldlM (emits_performOp hclock) _ _).bind fun _ => Emits.pure _

omit [Double α] [Clocked Event] in
theorem emits_phases (numWarmup numRuns : Int32)
    {warmupRound runRound : MyProfiler → Program Stop Event (MyProfiler × α)}
    (hwarmup : ∀ p, Emits P (warmupRound p)) (hrun : ∀ p, Emits P (runRound p)) :
    Emits P (phases numWarmup numRuns warmupRound runRound) := by
  have hrounds : ∀ {round : MyProfiler → Program Stop Event (MyProfiler × α)},
      (∀ p, Emits P (round p)) → ∀ n p, Emits P (rounds n round p) := by
    intro round h n p
    unfold rounds
    exact Emits.foldlM (fun (s : MyProfiler × List α) _ => (h s.1).bind fun _ => Emits.pure _) _ _
  exact (hrounds hwarmup _ _).bind fun _ => (hrounds hrun _ _).bind fun _ => Emits.pure _

end

variable (android : Bool) {net : Net}

/-- The two loops of the driver. -/
theorem emits_loops (inputTensorsInfo : MTensorDict) (numsWarmup numRuns : Int32) :
    Emits (OfInput net inputTensorsInfo) (phases numsWarmup numRuns
      (warmupRound (α := α) android net inputTensorsInfo)
      (runRound android net inputTensorsInfo)) := by
  have hextractor : Emits (OfInput net inputTensorsInfo) (emit (ε := Stop) .createExtractor) :=
    Emits.emit fun _ _ he => by cases he
  have hclock : OfInput net inputTensorsInfo Clocked.readClock := fun _ _ he => by cases he
  refine emits_phases numsWarmup numRuns (fun p => ?_) fun p => ?_
  · exact hextractor.bind fun _ => emits_measured hclock android emits_inference p
  · exact emits_measured hclock android (hextractor.bind fun _ => emits_inference) p

theorem emits_run (modelPath : Str) (inputTensorsInfo : MTensorDict) (numsWarmup numRuns : Int32)
    (useVulkan : Bool) : Emits (OfInput net inputTensorsInfo)
      (run α android net modelPath inputTensorsInfo numsWarmup numRuns useVulkan) := by
  unfold run
  refine (Emits.info _).bind fun _ => ?_
  refine (Emits.ite (Emits.emit fun _ _ he => by cases he) (Emits.pure _)).bind fun _ => ?_
  refine (Emits.ite (Emits.error _) (Emits.pure _)).bind fun _ => ?_
  refine (Emits.ite (Emits.error _) (Emits.pure _)).bind fun _ => ?_
  refine emits_logInputs.bind fun _ => ?_
  exact (emits_loops android inputTensorsInfo numsWarmup numRuns).bind fun _ =>
    (Emits.info _).bind fun _ => Emits.info _

theorem timeless_printArgs (flags : Flags) : Timeless (printArgs flags) :=
  (Timeless.info _).bind fun _ => (Timeless.info _).bind fun _ => (Timeless.info _).bind fun _ =>
    (Timeless.info _).bind fun _ => (Timeless.info _).bind fun _ => (Timeless.info _).bind fun _ =>
    (Timeless.info _).bind fun _ => Timeless.info _

theorem emits_printArgs {P : Event → Prop} (flags : Flags) : Emits P (printArgs flags) :=
  (Emits.info _).bind fun _ => (Emits.info _).bind fun _ => (Emits.info _).bind fun _ =>
    (Emits.info _).bind fun _ => (Emits.info _).bind fun _ => (Emits.info _).bind fun _ =>
    (Emits.info _).bind fun _ => Emits.info _

variable (what : StdException → Str) (flags : Flags)

/-- **The driver indexes shapes of inputs only**, as the dictionary of the flag has them. -/
theorem emits_main : Emits (OfInput net (MTensorDict.ofFlag flags.inputInfo))
    (main α android net what flags) := by
  unfold main
  refine (Emits.forM fun e _ => Emits.error _).bind fun _ => ?_
  refine (emits_printArgs flags).bind fun _ => ?_
  refine Emits.ite (emits_run android _ _ _ _ _) (Emits.ite (emits_run android _ _ _ _ _) ?_)
  exact (Emits.error _).bind fun _ => emits_run android _ _ _ _ _

/-! ## Every input is reached, unless a shape before it was too short -/

/-- The index of the shape of `name`, or of one that is too short. -/
def Hits (net : Net) (inputTensorsInfo : MTensorDict) (name : Str) (e : Event) : Prop :=
  ∃ name' ∈ net.inputNames, e = .indexShape name' (inputTensorsInfo.queryNcnnShapeInfo name') ∧
    (name' = name ∨ (inputTensorsInfo.queryNcnnShapeInfo name').length < 4)

/-- The index is noted before it is made. -/
theorem reaches_indexShape {P : Event → Prop} {name : Str} {shape : List Int32}
    (h : P (.indexShape name shape)) : Reaches P (indexShape name shape) := by
  unfold indexShape
  refine (Reaches.emit h).bind_left fun _ => ?_
  split
  · exact Emits.pure _
  · exact Emits.stop _

theorem reaches_logInputs {inputTensorsInfo : MTensorDict} {name : Str} :
    ∀ {l : List (Str × Nat)}, (∀ x ∈ l, x.1 ∈ net.inputNames) → (∃ i, (name, i) ∈ l) →
      Reaches (Hits net inputTensorsInfo name) (l.forM (logInput inputTensorsInfo))
  | [], _, h => by simp at h
  | x :: l, hl, ⟨i, hi⟩ => by
    have hx : x.1 ∈ net.inputNames := hl x (List.mem_cons_self ..)
    have hrest : Emits (fun _ => True) (l.forM (logInput inputTensorsInfo)) :=
      Emits.forM fun y hy => (emits_indexShape (hl y (List.mem_cons_of_mem x hy))).mono
        (fun _ _ => trivial) |>.bind fun _ => Emits.info _
    show Reaches _ (logInput inputTensorsInfo x >>= fun _ => l.forM (logInput inputTensorsInfo))
    by_cases hhit : x.1 = name ∨ (inputTensorsInfo.queryNcnnShapeInfo x.1).length < 4
    · have hevent : Hits net inputTensorsInfo name
          (.indexShape x.1 (inputTensorsInfo.queryNcnnShapeInfo x.1)) := ⟨x.1, hx, rfl, hhit⟩
      exact ((reaches_indexShape hevent).bind_left fun _ => Emits.info _).bind_left fun _ => hrest
    · -- this input is another one, and its line is logged
      rw [not_or, Nat.not_lt] at hhit
      have hi' : (name, i) ∈ l := by
        rcases List.mem_cons.mp hi with he | hi
        · exact absurd (congrArg Prod.fst he).symm hhit.1
        · exact hi
      have hline : Timeless (logInput inputTensorsInfo x) :=
        (timeless_indexShape x.1 hhit.2).bind fun _ => Timeless.info _
      exact Reaches.bind_right hline fun _ =>
        reaches_logInputs (fun y hy => hl y (List.mem_cons_of_mem x hy)) ⟨i, hi'⟩

theorem reaches_run (modelPath : Str) {inputTensorsInfo : MTensorDict} (numsWarmup numRuns : Int32)
    (useVulkan : Bool) {name : Str} (hname : name ∈ net.inputNames) :
    Reaches (Hits net inputTensorsInfo name)
      (run α android net modelPath inputTensorsInfo numsWarmup numRuns useVulkan) := by
  have hlines : Reaches (Hits net inputTensorsInfo name)
      (net.inputNames.zipIdx.forM (logInput inputTensorsInfo)) :=
    reaches_logInputs (fun x hx => List.fst_mem_of_mem_zipIdx hx) (exists_mem_zipIdx hname)
  have hloops : Emits (fun _ => True) (phases numsWarmup numRuns
      (warmupRound (α := α) android net inputTensorsInfo)
      (runRound android net inputTensorsInfo)) :=
    (emits_loops android inputTensorsInfo numsWarmup numRuns).mono fun _ _ => trivial
  unfold run
  refine Reaches.bind_right (Timeless.info _) fun _ => ?_
  refine Reaches.bind_right (Timeless.ite (Timeless.emit _) (Timeless.pure _)) fun _ => ?_
  refine Reaches.bind_right (Timeless.ite (Timeless.error _) (Timeless.pure _)) fun _ => ?_
  refine Reaches.bind_right (Timeless.ite (Timeless.error _) (Timeless.pure _)) fun _ => ?_
  exact hlines.bind_left fun _ => hloops.bind fun _ => (Emits.info _).bind fun _ => Emits.info _

theorem reaches_main {name : Str} (hname : name ∈ net.inputNames) :
    Reaches (Hits net (MTensorDict.ofFlag flags.inputInfo) name)
      (main α android net what flags) := by
  unfold main
  refine Reaches.bind_right (Timeless.forM fun _ _ => Timeless.error _) fun _ => ?_
  refine Reaches.bind_right (timeless_printArgs flags) fun _ => ?_
  split
  · exact reaches_run android _ _ _ _ hname
  · split
    · exact reaches_run android _ _ _ _ hname
    · exact Reaches.bind_right (Timeless.error _) fun _ => reaches_run android _ _ _ _ hname

/-! ## The shapes of the flag -/

/-- The first entry with a name comes from the first record with this name. -/
theorem find?_readable {name : Str} : ∀ {rs : List RawRecord}, (∀ r ∈ rs, r.tensor?.isSome) →
    (readable rs).find? (fun info => info.name == name)
      = (rs.find? fun r => r.name == name).bind RawRecord.tensor?
  | [], _ => rfl
  | r :: rs, h => by
    obtain ⟨hr, hrs⟩ := List.forall_mem_cons.mp h
    obtain ⟨t, ht⟩ := Option.isSome_iff_exists.mp hr
    have hname : t.name = r.name := by
      obtain ⟨ds, -, rfl⟩ := Option.map_eq_some_iff.mp ht
      rfl
    rw [readable, ht]
    dsimp only
    rw [List.find?_cons, List.find?_cons, hname]
    cases r.name == name with
    | true => exact ht.symm
    | false => exact find?_readable hrs

/-- What the dictionary of an accepted flag says of a name. -/
theorem queryNcnn_accepted {s : Str} (h : ∀ r ∈ linearScan s, r.tensor?.isSome) (name : Str) :
    (MTensorDict.ofFlag s).queryNcnnShapeInfo name
      = (((linearScan s).find? fun r => r.name == name).bind fun r => dims? r.dims).getD [] := by
  rw [MTensorDict.queryNcnnShapeInfo, MTensorDict.ofFlag, parseTensorInfo_out, List.nil_append]
  dsimp only
  rw [find?_readable h]
  cases (linearScan s).find? fun r => r.name == name with
  | none => rfl
  | some r =>
    dsimp only [Option.bind_some, RawRecord.tensor?]
    cases dims? r.dims with
    | none => rfl
    | some ds => exact toInt32_map_toInt64 ds

/-- Four entries, the first of them 1: the layout `1,c,h,w`. -/
theorem isChw_iff (shape : List Int32) :
    (shape.length = 4 ∧ shape.head? = some 1) ↔ ∃ c h w, shape = [1, c, h, w] := by
  constructor
  · rintro ⟨hlength, hhead⟩
    match shape, hlength, hhead with
    | [n, c, h, w], _, hhead =>
      obtain rfl : n = 1 := by simpa using hhead
      exact ⟨c, h, w, rfl⟩
  · rintro ⟨c, h, w, rfl⟩
    exact ⟨rfl, rfl⟩

/-- Every record of the flag can be read, and the first one with the name of an input has the
dimensions `1,c,h,w`. -/
def CoversInputs (names : List Str) (s : Str) : Prop :=
  (∀ r ∈ linearScan s, ∀ p ∈ pieces r.dims, DimPiece p) ∧
    ∀ name ∈ names, ∃ r, (linearScan s).find? (fun r => r.name == name) = some r ∧
      ∃ c h w, dims? r.dims = some [1, c, h, w]

/-- The shapes of an accepted flag have the layout exactly if the records have. -/
theorem query_isChw_iff {s : Str} (h : ∀ r ∈ linearScan s, r.tensor?.isSome) (name : Str) :
    (∃ c h w, (MTensorDict.ofFlag s).queryNcnnShapeInfo name = [1, c, h, w]) ↔
      ∃ r, (linearScan s).find? (fun r => r.name == name) = some r ∧
        ∃ c h w, dims? r.dims = some [1, c, h, w] := by
  rw [queryNcnn_accepted h]
  cases (linearScan s).find? fun r => r.name == name with
  | none => simp
  | some r =>
    dsimp only [Option.bind_some]
    cases hd : dims? r.dims <;> simp [hd]

/-- Every shape that is indexed comes from an accepted flag and has the layout `1,c,h,w`. -/
def ShapesChecked (s : Str) (events : List Event) : Prop :=
  ∀ name shape, Event.indexShape name shape ∈ events →
    (parseTensorInfo s []).retCode = 0 ∧ shape.length = 4 ∧ shape.head? = some 1

/--
**When the driver indexes no shape out of range**: exactly if the model has no inputs, or the flag
is accepted and covers all of them with the layout `1,c,h,w`.
-/
theorem main_shapesChecked (clock : Nat → Int) :
    ShapesChecked flags.inputInfo
        (final (main α android net what flags { clock })).events ↔
      net.inputNames = [] ∨ CoversInputs net.inputNames flags.inputInfo := by
  have haccepted := parseTensorInfo_retCode_pieces flags.inputInfo []
  constructor
  · intro hchecked
    -- the index that is made on account of an input
    have hindex : ∀ name ∈ net.inputNames, (parseTensorInfo flags.inputInfo []).retCode = 0 ∧
        ∃ c h w, (MTensorDict.ofFlag flags.inputInfo).queryNcnnShapeInfo name = [1, c, h, w] := by
      intro name hname
      obtain ⟨e, he, name', -, rfl, hhit⟩ :=
        reaches_main (α := α) android what flags hname { clock }
      obtain ⟨hcode, hchw⟩ := hchecked _ _ he
      have hsame : name' = name := hhit.resolve_right fun hshort => by omega
      exact ⟨hcode, (isChw_iff _).mp (hsame ▸ hchw)⟩
    cases hnames : net.inputNames with
    | nil => exact Or.inl rfl
    | cons name names =>
      have hcode := (hindex name (hnames ▸ List.mem_cons_self ..)).1
      refine Or.inr ⟨haccepted.mp hcode, fun name' hname' => ?_⟩
      exact (query_isChw_iff ((parseTensorInfo_retCode _ _).mp hcode) name').mp
        (hindex name' (hnames ▸ hname')).2
  · intro hcond name shape he
    have hmain : Emits (OfInput net (MTensorDict.ofFlag flags.inputInfo))
        (main α android net what flags) :=
      emits_main android what flags
    obtain ⟨events, hevents, honly⟩ := hmain { clock }
    rw [hevents, List.nil_append] at he
    obtain ⟨hname, rfl⟩ := honly _ he name shape rfl
    -- only the shape of an input is indexed, so the condition speaks about it
    rcases hcond with hnil | ⟨hrecords, hcovers⟩
    · rw [hnil] at hname
      cases hname
    · have hcode := haccepted.mpr hrecords
      refine ⟨hcode, (isChw_iff _).mpr ?_⟩
      exact (query_isChw_iff ((parseTensorInfo_retCode _ _).mp hcode) name).mpr
        (hcovers name hname)

/-- The defaults of the flags. -/
def defaultFlags : Flags :=
  { model := [], param := [], backend := "arm".toList, numThreads := 4, numWarmup := 3
    numRuns := 10, inputInfo := [] }

/-- A model with one input. -/
def oneInput : Net :=
  { loadParam := 0, loadModel := 0, inputNames := ["data".toList], outputNames := ["prob".toList] }

/-- Without the flag the empty vector is indexed. -/
theorem main_shapesChecked_not : ¬ ShapesChecked defaultFlags.inputInfo
    (final (main ℚ false oneInput (fun _ => []) defaultFlags
      { clock := fun t => 1000 * t })).events := by
  intro h
  have hindexed : Event.indexShape "data".toList [] ∈
      (final (main ℚ false oneInput (fun _ => []) defaultFlags
        { clock := fun t => 1000 * t })).events := by decide +kernel
  exact absurd (h _ _ hindexed).2.1 (by decide)

end UnifiedModelBenchmark.Ncnn
