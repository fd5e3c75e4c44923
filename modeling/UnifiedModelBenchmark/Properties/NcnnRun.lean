import UnifiedModelBenchmark.Properties.Dict
import UnifiedModelBenchmark.Properties.Runs

/-!
# The ncnn driver from its start to its end

The driver looks at the shapes of all inputs for its log before it asks ncnn for anything else. So
either it finds all of them, and the rounds find them again, or it comes to an undefined read at the
first shape that is too short, with the clock unread and no extractor created (`main_world`). What
it does from there on is not said.
-/

namespace UnifiedModelBenchmark.Ncnn

open Infra Infra.Cxx Program Spec Spec.Ncnn

variable {α : Type} [Double α]

/-! ## Shapes -/

section

variable {inputTensorsInfo : MTensorDict} {name : Str}

/-- A shape that is long enough is indexed with success. -/
theorem indexShape_adds (h : 4 ≤ (inputTensorsInfo.queryNcnnShapeInfo name).length) :
    ∃ x, whc? inputTensorsInfo name = some x ∧ ∀ world,
      Adds (indexShape name (inputTensorsInfo.queryNcnnShapeInfo name)) world x 0 []
        [looksAt inputTensorsInfo name] := by
  unfold whc? looksAt
  match hs : inputTensorsInfo.queryNcnnShapeInfo name with
  | n :: c :: h :: w :: rest => exact ⟨(w, h, c), rfl, fun world => rfl⟩
  | [] | [_] | [_, _] | [_, _, _] => simp [hs] at h

/-- In a shape that is too short an entry is read that it does not have. -/
theorem indexShape_stops (h : (inputTensorsInfo.queryNcnnShapeInfo name).length < 4)
    (world : World Event) :
    Stops (indexShape name (inputTensorsInfo.queryNcnnShapeInfo name)) world .undefinedRead 0 []
      [looksAt inputTensorsInfo name] := by
  unfold indexShape
  rw [List.getElem?_eq_none (show _ ≤ 3 by omega)]
  rfl

theorem logInput_adds (h : 4 ≤ (inputTensorsInfo.queryNcnnShapeInfo name).length) (i : Nat)
    (world : World Event) : Adds (logInput inputTensorsInfo (name, i)) world ⟨⟩ 0
      (inputLine inputTensorsInfo (name, i)) [looksAt inputTensorsInfo name] := by
  obtain ⟨⟨w, h, c⟩, hwhc, hindex⟩ := indexShape_adds h
  unfold logInput inputLine Adds
  rw [bind_eq_ok (hindex world), hwhc]
  exact (Adds.info _ _).trans (by rw [World.after_after]; rfl)

theorem logInput_stops (h : (inputTensorsInfo.queryNcnnShapeInfo name).length < 4) (i : Nat)
    (world : World Event) :
    Stops (logInput inputTensorsInfo (name, i)) world .undefinedRead 0 []
      [looksAt inputTensorsInfo name] :=
  (indexShape_stops h world).bind_left _

theorem setInput_adds (h : 4 ≤ (inputTensorsInfo.queryNcnnShapeInfo name).length)
    (world : World Event) : Adds (setInput inputTensorsInfo name) world ⟨⟩ 0 []
      (inputEvents inputTensorsInfo name) := by
  obtain ⟨⟨w, h, c⟩, hwhc, hindex⟩ := indexShape_adds h
  unfold setInput inputEvents Adds
  rw [bind_eq_ok (hindex world), hwhc]
  exact (Adds.emit _ _).trans (by rw [World.after_after]; rfl)

end

/-- The first input whose shape is too short. -/
theorem exists_first_short {net : Net} {inputTensorsInfo : MTensorDict}
    (h : ¬ Indexable net inputTensorsInfo) :
    ∃ before name after, net.inputNames = before ++ name :: after ∧
      (∀ b ∈ before, 4 ≤ (inputTensorsInfo.queryNcnnShapeInfo b).length) ∧
      (inputTensorsInfo.queryNcnnShapeInfo name).length < 4 := by
  have hcases := exists_first (l := net.inputNames) fun name _ =>
    Nat.lt_or_ge (inputTensorsInfo.queryNcnnShapeInfo name).length 4 |>.symm
  exact hcases.resolve_left h

/-! ## Rounds -/

section

variable {net : Net} {inputTensorsInfo : MTensorDict}

theorem inference_adds (h : Indexable net inputTensorsInfo) (world : World Event) :
    Adds (inference net inputTensorsInfo) world () 0 [] (inferenceEvents inputTensorsInfo net) := by
  have hinputs := Adds.forM (l := net.inputNames) fun name hname => setInput_adds (h name hname)
  have hboth := (hinputs world).seq (q := fun _ => net.outputNames.forM fun name =>
    emit (Event.extract name)) (Adds.forM_emit Event.extract net.outputNames _)
  rw [List.flatMap_eq_nil_iff.mpr fun _ _ => rfl] at hboth
  exact hboth

theorem warmupRound_adds (android : Bool) (h : Indexable net inputTensorsInfo) :
    RoundAdds (α := α) (warmupRound android net inputTensorsInfo)
      (warmupRoundEvents inputTensorsInfo net) := by
  have hmeasured := roundAdds_measured (α := α) android (inference_adds h)
  have hround := hmeasured.after (Adds.emit Event.createExtractor)
  exact hround

theorem runRound_adds (android : Bool) (h : Indexable net inputTensorsInfo) :
    RoundAdds (α := α) (runRound android net inputTensorsInfo)
      (runRoundEvents inputTensorsInfo net) :=
  roundAdds_measured android fun world =>
    (Adds.emit Event.createExtractor world).seq (q := fun _ => inference net inputTensorsInfo)
      (inference_adds h _)

end

/-! ## The driver -/

/-- Up to the first look at a shape. -/
def opening (net : Net) (modelPath : Str) (useVulkanCompute : Bool) : Program Stop Event Unit := do
  info "=================================\tRuntime Info\t=================================".toList
  (if useVulkanCompute then emit .setDevice else pure ())
  (if net.loadParam = -1 then error ("fail load param: ".toList ++ modelPath) else pure ())
  (if net.loadModel = -1 then error ("fail load model: ".toList ++ modelPath) else pure ())

theorem opening_adds (net : Net) (modelPath : Str) (useVulkanCompute : Bool) (world : World Event) :
    Adds (opening net modelPath useVulkanCompute) world () 0 (openingLines net modelPath)
      (if useVulkanCompute then [.setDevice] else []) := by
  unfold opening Adds
  rw [bind_eq_ok (Adds.info _ _), bind_eq_ok ((Adds.emit _ _).ite (Adds.pure _ _)),
    bind_eq_ok ((Adds.error _ _).ite (Adds.pure _ _))]
  refine ((Adds.error _ _).ite (Adds.pure _ _)).trans ?_
  simp only [World.after_after, ite_self, List.nil_append, List.append_nil, List.append_assoc]
  rfl

/-- What `main` does in front of `run`. -/
def preparation (what : StdException → Str) (flags : Flags) : Program Stop Event Unit := do
  (parseTensorInfo flags.inputInfo []).logged.forM fun e => error (what e)
  printArgs flags
  (if flags.backend = "arm".toList ∨ flags.backend = "vulkan".toList then pure ()
    else error ("unkown backend for ncnn: ".toList ++ flags.backend))

/-- Only the backend `vulkan` sets the option `use_vulkan_compute`. -/
theorem main_eq (android : Bool) (net : Net) (what : StdException → Str) (flags : Flags) :
    main α android net what flags
      = preparation what flags >>= fun _ => run α android net flags.model
        (MTensorDict.ofFlag flags.inputInfo) flags.numWarmup flags.numRuns
        (flags.backend = "vulkan".toList) := by
  unfold main preparation
  dsimp only
  by_cases harm : flags.backend = "arm".toList
  · have hcpu : ¬ flags.backend = "vulkan".toList := by
      rw [harm]
      decide
    rw [if_pos harm, if_pos (.inl harm), decide_eq_false hcpu]
    simp only [bind_assoc, pure_bind]
  · by_cases hvulkan : flags.backend = "vulkan".toList
    · rw [if_neg harm, if_pos hvulkan, if_pos (.inr hvulkan), decide_eq_true hvulkan]
      simp only [bind_assoc, pure_bind]
    · rw [if_neg harm, if_neg hvulkan, if_neg (not_or.mpr ⟨harm, hvulkan⟩),
        decide_eq_false hvulkan]
      simp only [bind_assoc]

theorem printArgs_adds (flags : Flags) (world : World Event) :
    Adds (printArgs flags) world () 0 (argLines flags) [] := by
  unfold printArgs Adds
  rw [bind_eq_ok (Adds.info _ _), bind_eq_ok (Adds.info _ _), bind_eq_ok (Adds.info _ _),
    bind_eq_ok (Adds.info _ _), bind_eq_ok (Adds.info _ _), bind_eq_ok (Adds.info _ _),
    bind_eq_ok (Adds.info _ _)]
  refine (Adds.info _ _).trans ?_
  simp only [World.after_after]
  rfl

theorem preparation_adds (what : StdException → Str) (flags : Flags) (world : World Event) :
    Adds (preparation what flags) world () 0
      ((parseTensorInfo flags.inputInfo []).logged.map (fun e => .error (what e)) ++ argLines flags
        ++ (if flags.backend = "arm".toList ∨ flags.backend = "vulkan".toList then []
          else [.error ("unkown backend for ncnn: ".toList ++ flags.backend)])) [] := by
  have hlogged : Adds ((parseTensorInfo flags.inputInfo []).logged.forM fun e =>
      (error (what e) : Program Stop Event PUnit)) world ⟨⟩ 0 _ [] :=
    Adds.forM_lines (fun e _ w => Adds.error (what e) w) world
  unfold preparation Adds
  rw [bind_eq_ok hlogged, bind_eq_ok (printArgs_adds flags _)]
  refine ((Adds.pure _ _).ite (Adds.error _ _)).trans ?_
  simp only [World.after_after, ite_self, List.append_assoc]
  rfl

/-- Everything before the first look at a shape. -/
theorem start_adds (net : Net) (what : StdException → Str) (flags : Flags) (world : World Event) :
    Adds (preparation what flags >>= fun _ =>
        opening net flags.model (flags.backend = "vulkan".toList))
      world () 0 (startLines what flags net) (startEvents flags) := by
  have h := (preparation_adds what flags world).seq
    (q := fun _ => opening net flags.model (flags.backend = "vulkan".toList)) (opening_adds ..)
  simp only [decide_eq_true_eq, List.nil_append] at h
  exact h

section

variable (android : Bool) (net : Net) (what : StdException → Str) (flags : Flags)
  (clock : Nat → Int)

/-- The driver in three parts: the last begins when all shapes were looked at once. -/
theorem main_parts : main α android net what flags
    = (preparation what flags >>= fun _ =>
        opening net flags.model (flags.backend = "vulkan".toList))
      >>= fun _ => net.inputNames.zipIdx.forM (logInput (MTensorDict.ofFlag flags.inputInfo))
      >>= fun _ => phases flags.numWarmup flags.numRuns
        (warmupRound (α := α) android net (MTensorDict.ofFlag flags.inputInfo))
        (runRound android net (MTensorDict.ofFlag flags.inputInfo))
      >>= fun lists => report (calls lists) := by
  rw [main_eq, run_eq]
  unfold metricCalls opening
  simp only [bind_assoc, pure_bind]

/-- If it finds all shapes, the driver comes to its end. -/
theorem main_adds (h : Indexable net (MTensorDict.ofFlag flags.inputInfo)) :
    Adds (main α android net what flags) { clock } ()
      (2 * (count flags.numWarmup + count flags.numRuns)) (log what flags net α clock)
      (events flags net) := by
  have hinputs := Adds.forM (l := net.inputNames.zipIdx) fun input hinput =>
    logInput_adds (h input.1 (List.fst_mem_of_mem_zipIdx hinput)) input.2
  rw [main_parts]
  unfold Adds
  rw [bind_eq_ok (start_adds ..), bind_eq_ok (hinputs _),
    bind_eq_ok (phases_adds (warmupRound_adds android h) (runRound_adds android h) _ _ rfl)]
  refine (report_adds _ _).trans ?_
  simp only [World.after_after]
  congr 3
  · omega
  · simp only [List.append_nil]
    rfl
  · rw [← List.map_eq_flatMap,
      map_zipIdx (looksAt (MTensorDict.ofFlag flags.inputInfo)) net.inputNames]
    simp only [List.append_nil]
    rfl

/-- If it does not, it looks at them up to the first one that is too short. -/
theorem main_stops {before after : List Str} {name : Str}
    (hnames : net.inputNames = before ++ name :: after)
    (hbefore : ∀ b ∈ before,
      4 ≤ ((MTensorDict.ofFlag flags.inputInfo).queryNcnnShapeInfo b).length)
    (hname : ((MTensorDict.ofFlag flags.inputInfo).queryNcnnShapeInfo name).length < 4) :
    Stops (main α android net what flags) { clock } .undefinedRead 0
      (startLines what flags net
        ++ before.zipIdx.flatMap (inputLine (MTensorDict.ofFlag flags.inputInfo)))
      (startEvents flags
        ++ (before ++ [name]).map (looksAt (MTensorDict.ofFlag flags.inputInfo))) := by
  have hsplit : net.inputNames.zipIdx = before.zipIdx ++ (name, before.length)
      :: after.zipIdx (before.length + 1) := by
    rw [hnames, List.zipIdx_append, List.zipIdx_cons, Nat.zero_add]
  have hlogged := fun (input : Str × Nat) (hinput : input ∈ before.zipIdx) =>
    logInput_adds (hbefore input.1 (List.fst_mem_of_mem_zipIdx hinput)) input.2
  have hinputs := Stops.forM (fun w => logInput_stops hname before.length w)
    (after.zipIdx (before.length + 1)) hlogged
  have hstops := Stops.bind_right (q := fun _ => (before.zipIdx ++ (name, before.length)
      :: after.zipIdx (before.length + 1)).forM (logInput (MTensorDict.ofFlag flags.inputInfo)))
    (start_adds net what flags { clock }) (hinputs _)
  rw [main_parts, hsplit, ← bind_assoc]
  refine (hstops.bind_left _).trans ?_
  rw [← List.map_eq_flatMap, map_zipIdx (looksAt (MTensorDict.ofFlag flags.inputInfo)) before,
    List.append_nil, List.map_append]
  rfl

/--
**A run of the ncnn driver.** If the shapes of all inputs are long enough, it ends normally: a round
of either loop creates an extractor, sets every input and extracts every output, in order, all of it
measured but the extractor of a warm-up round, and both metrics are those of the warm-up rounds. If
not, it comes to an undefined read at the first input whose shape is too short. Until then it has
logged exactly the inputs before that one, and has neither read the clock nor asked ncnn for an
extractor. Nothing is said of what follows.
-/
theorem main_world :
    (Indexable net (MTensorDict.ofFlag flags.inputInfo) →
      Adds (main α android net what flags) { clock } ()
        (2 * (count flags.numWarmup + count flags.numRuns)) (log what flags net α clock)
        (events flags net)) ∧
    (¬ Indexable net (MTensorDict.ofFlag flags.inputInfo) →
      ∃ before name after, net.inputNames = before ++ name :: after ∧
        (∀ b ∈ before, 4 ≤ ((MTensorDict.ofFlag flags.inputInfo).queryNcnnShapeInfo b).length) ∧
        ((MTensorDict.ofFlag flags.inputInfo).queryNcnnShapeInfo name).length < 4 ∧
        Stops (main α android net what flags) { clock } .undefinedRead 0
          (startLines what flags net
            ++ before.zipIdx.flatMap (inputLine (MTensorDict.ofFlag flags.inputInfo)))
          (startEvents flags
            ++ (before ++ [name]).map (looksAt (MTensorDict.ofFlag flags.inputInfo)))) := by
  refine ⟨main_adds android net what flags clock, fun h => ?_⟩
  obtain ⟨before, name, after, hnames, hbefore, hname⟩ := exists_first_short h
  exact ⟨before, name, after, hnames, hbefore, hname,
    main_stops android net what flags clock hnames hbefore hname⟩

end

/-! ## From the flag to ncnn -/

/-- A tensor with the four dimensions that the driver expects. -/
structure Image where
  tensor : Tensor
  n : Int32
  c : Int32
  h : Int32
  w : Int32
  shape_eq : tensor.shape = [n, c, h, w]

/-- The inputs that ncnn was given, in order, with their sizes. -/
def inputsSet (events : List Event) : List (Str × Int32 × Int32 × Int32) :=
  events.filterMap fun
    | .input name w h c => some (name, w, h, c)
    | _ => none

theorem inputsSet_append (l l' : List Event) : inputsSet (l ++ l') = inputsSet l ++ inputsSet l' :=
  List.filterMap_append

/-- Asking for something else for each name sets no input. -/
theorem inputsSet_map_eq_nil {event : Str → Event} (h : ∀ name, inputsSet [event name] = []) :
    ∀ names : List Str, inputsSet (names.map event) = []
  | [] => rfl
  | name :: names => by
    rw [List.map_cons, ← List.singleton_append, inputsSet_append, h, inputsSet_map_eq_nil h names]
    rfl

/-- The inputs that were set before the first extractor was created, and those that were set for
each extractor. -/
def inputsByExtractor (events : List Event) : List (List (Str × Int32 × Int32 × Int32)) :=
  (events.splitOn .createExtractor).map inputsSet

theorem inputsByExtractor_createExtractor (l : List Event) :
    inputsByExtractor (.createExtractor :: l) = [] :: inputsByExtractor l := by
  unfold inputsByExtractor
  rw [List.splitOn_cons_eq_if_modifyHead, if_pos (beq_self_eq_true _)]
  rfl

theorem inputsByExtractor_cons {e : Event} (h : e ≠ .createExtractor) (l : List Event) :
    inputsByExtractor (e :: l) = (inputsByExtractor l).modifyHead (inputsSet [e] ++ ·) := by
  unfold inputsByExtractor
  rw [List.splitOn_cons_eq_if_modifyHead, if_neg fun he => h (eq_of_beq he)]
  cases l.splitOn Event.createExtractor with
  | nil => rfl
  | cons x xs =>
    rw [List.modifyHead_cons, List.map_cons, List.map_cons, List.modifyHead_cons,
      ← inputsSet_append]
    rfl

/-- Without a new extractor all inputs are set for the one there is. -/
theorem inputsByExtractor_of_not_mem {l : List Event} (h : .createExtractor ∉ l) :
    inputsByExtractor l = [inputsSet l] := by
  unfold inputsByExtractor
  rw [List.splitOn_eq_singleton h]
  rfl

/-- Events that set nothing before their first extractor leave the last one as it is. -/
theorem inputsByExtractor_append {l' : List Event}
    {rest : List (List (Str × Int32 × Int32 × Int32))} (h : inputsByExtractor l' = [] :: rest) :
    ∀ l, inputsByExtractor (l ++ l') = inputsByExtractor l ++ rest
  | [] => h
  | e :: l => by
    have ih := inputsByExtractor_append h l
    by_cases he : e = .createExtractor
    · rw [he, List.cons_append, inputsByExtractor_createExtractor,
        inputsByExtractor_createExtractor, ih]
      rfl
    · rw [List.cons_append, inputsByExtractor_cons he, inputsByExtractor_cons he, ih]
      cases hl : inputsByExtractor l with
      | nil => exact absurd (List.map_eq_nil_iff.mp hl) (List.splitOn_ne_nil _ _)
      | cons x xs => rfl

/-- Rounds that create one extractor each. -/
theorem inputsByExtractor_repeated {l : List Event} {inputs : List (Str × Int32 × Int32 × Int32)}
    (h : inputsByExtractor l = [[], inputs]) (n : Nat) :
    inputsByExtractor (repeated n l) = [] :: List.replicate n inputs := by
  induction n with
  | zero => rfl
  | succ n ih =>
    rw [repeated_succ, inputsByExtractor_append h, ih, List.replicate_succ', List.cons_append]

theorem inputsSet_inputEvents {inputTensorsInfo : MTensorDict} {i : Image}
    (h : inputTensorsInfo.queryNcnnShapeInfo i.tensor.name = i.tensor.shape) :
    inputsSet (inputEvents inputTensorsInfo i.tensor.name) = [(i.tensor.name, i.w, i.h, i.c)] := by
  unfold inputEvents whc?
  rw [h, i.shape_eq]
  rfl

section

variable {net : Net} {inputTensorsInfo : MTensorDict} {images : List Image}

theorem createExtractor_not_mem_inferenceEvents :
    .createExtractor ∉ inferenceEvents inputTensorsInfo net := by
  intro he
  rcases List.mem_append.mp he with he | he
  · obtain ⟨name, -, he⟩ := List.mem_flatMap.mp he
    unfold inputEvents looksAt at he
    split at he <;> simp at he
  · obtain ⟨name, -, he⟩ := List.mem_map.mp he
    cases he

/-- Neither the device nor a look at a shape sets an input. -/
theorem inputsByExtractor_start (flags : Flags) : inputsByExtractor (startEvents flags
    ++ net.inputNames.map (looksAt inputTensorsInfo)) = [[]] := by
  have hnotMem : .createExtractor ∉ startEvents flags
      ++ net.inputNames.map (looksAt inputTensorsInfo) := by
    unfold startEvents looksAt
    split <;> simp
  have hstart : inputsSet (startEvents flags) = [] := by
    unfold startEvents
    split <;> rfl
  rw [inputsByExtractor_of_not_mem hnotMem, inputsSet_append, hstart,
    inputsSet_map_eq_nil (fun _ => rfl)]
  rfl

/-! The dictionary has the shapes of all inputs of the model. -/

variable (hnames : net.inputNames = images.map fun i => i.tensor.name)
  (h : ∀ i ∈ images, inputTensorsInfo.queryNcnnShapeInfo i.tensor.name = i.tensor.shape)
include hnames h

theorem inputsSet_inferenceEvents : inputsSet (inferenceEvents inputTensorsInfo net)
    = images.map fun i => (i.tensor.name, i.w, i.h, i.c) := by
  have hinputs : inputsSet (net.inputNames.flatMap (inputEvents inputTensorsInfo))
      = images.map fun i => (i.tensor.name, i.w, i.h, i.c) := by
    rw [hnames]
    clear hnames
    induction images with
    | nil => rfl
    | cons i images ih =>
      rw [List.map_cons, List.flatMap_cons, inputsSet_append,
        inputsSet_inputEvents (h i (List.mem_cons_self ..)),
        ih fun j hj => h j (List.mem_cons_of_mem i hj)]
      rfl
  unfold inferenceEvents
  rw [inputsSet_append, hinputs, inputsSet_map_eq_nil (fun _ => rfl), List.append_nil]

/-- What follows the extractor of a round, up to the end of the round. -/
theorem inputsByExtractor_inference :
    inputsByExtractor (inferenceEvents inputTensorsInfo net ++ [.readClock])
      = [images.map fun i => (i.tensor.name, i.w, i.h, i.c)] := by
  have hclock : inputsByExtractor [.readClock] = [] :: [] := rfl
  rw [inputsByExtractor_append hclock, List.append_nil,
    inputsByExtractor_of_not_mem createExtractor_not_mem_inferenceEvents,
    inputsSet_inferenceEvents hnames h]

theorem inputsByExtractor_warmupRound : inputsByExtractor (warmupRoundEvents inputTensorsInfo net)
    = [[], images.map fun i => (i.tensor.name, i.w, i.h, i.c)] := by
  unfold warmupRoundEvents
  rw [List.cons_append, List.cons_append, inputsByExtractor_createExtractor,
    inputsByExtractor_cons (by simp), inputsByExtractor_inference hnames h]
  rfl

theorem inputsByExtractor_runRound : inputsByExtractor (runRoundEvents inputTensorsInfo net)
    = [[], images.map fun i => (i.tensor.name, i.w, i.h, i.c)] := by
  unfold runRoundEvents
  rw [List.cons_append, List.cons_append, inputsByExtractor_cons (by simp),
    inputsByExtractor_createExtractor, inputsByExtractor_inference hnames h]
  rfl

end

/--
**From the flag to ncnn.** If `--input_info` is a text in the documented format that lists every
input of the model under its name, with four dimensions, then each round of either loop creates one
extractor, and for each of them ncnn is given exactly the inputs of the model, in their order, with
the width, the height and the channels that the flag says.
-/
theorem main_setsInputs (android : Bool) (net : Net) (what : StdException → Str) (flags : Flags)
    (clock : Nat → Int) (ts : List Tensor) (images : List Image)
    (hinfo : InputInfo flags.inputInfo ts) (hnd : (ts.map Tensor.name).Nodup)
    (hlisted : ∀ i ∈ images, i.tensor ∈ ts)
    (hnames : net.inputNames = images.map fun i => i.tensor.name) :
    ∃ world, main α android net what flags { clock } = .ok ((), world) ∧
      inputsByExtractor world.events = [] :: List.replicate
        (count flags.numWarmup + count flags.numRuns)
        (images.map fun i => (i.tensor.name, i.w, i.h, i.c)) := by
  have hquery : ∀ i ∈ images, (MTensorDict.ofFlag flags.inputInfo).queryNcnnShapeInfo i.tensor.name
      = i.tensor.shape := fun i hi => (query_listed hinfo hnd (hlisted i hi)).2
  have hindexable : Indexable net (MTensorDict.ofFlag flags.inputInfo) := by
    intro name hname
    rw [hnames] at hname
    obtain ⟨i, hi, rfl⟩ := List.mem_map.mp hname
    rw [hquery i hi, i.shape_eq]
    exact Nat.le_refl 4
  have hwarmup := inputsByExtractor_repeated (inputsByExtractor_warmupRound hnames hquery)
    (count flags.numWarmup)
  have hrun := inputsByExtractor_repeated (inputsByExtractor_runRound hnames hquery)
    (count flags.numRuns)
  have hrounds := inputsByExtractor_append hrun
    (repeated (count flags.numWarmup) (warmupRoundEvents (MTensorDict.ofFlag flags.inputInfo) net))
  rw [hwarmup, List.cons_append, ← List.replicate_add] at hrounds
  refine ⟨_, main_adds android net what flags clock hindexable, ?_⟩
  show inputsByExtractor (events flags net) = _
  unfold events
  rw [inputsByExtractor_append hrounds, inputsByExtractor_start]
  rfl

/-- A model with one input, and one line of the documentation. -/
theorem main_setsInputs_one :
    let sep : Separator := { text := [','], ok := by simp [isSep] }
    let input1 : Tensor :=
      { name := "input1".toList, shape := [1, 3, 128, 64], dtype := "float32".toList
        name_ok := by simp [isLineTerminator], dtype_ok := by simp [isLineTerminator] }
    let flags : Flags :=
      { model := [], param := [], backend := "arm".toList, numThreads := 4, numWarmup := 1
        numRuns := 2, inputInfo := encode sep [(input1, sep)] }
    let net : Net :=
      { loadParam := 0, loadModel := 0, inputNames := ["input1".toList]
        outputNames := ["out".toList] }
    ∃ world, main ℚ true net (fun _ => []) flags { clock := fun t => 1000 * t }
        = .ok ((), world) ∧
      inputsByExtractor world.events
        = [] :: List.replicate 3 [("input1".toList, 64, 128, 3)] := by
  intro sep input1 flags net
  obtain ⟨world, hmain, hsets⟩ := main_setsInputs (α := ℚ) true net (fun _ => []) flags
    (fun t => 1000 * t) [input1] [⟨input1, 1, 3, 128, 64, rfl⟩]
    (inputInfo_encode sep [(input1, sep)]) (by simp) (by simp) rfl
  exact ⟨world, hmain, hsets⟩

end UnifiedModelBenchmark.Ncnn
