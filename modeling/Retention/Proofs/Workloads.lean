import Mathlib
import Retention.Proofs.ApiVersions
import Retention.Proofs.Survival
import Retention.Proofs.TextMaps

/-!
# Work that is not finished

The built-in predicates let a pod go once it has succeeded, and a job once it has completed.  They see
an object as it is decoded from its JSON form, and the decoding is not this library's own: of the code
that does it, `DecodesPods` and `DecodesJobs` say what the predicates rely on.  With any such code the
registry tells finished work from unfinished work and from what does not decode (`TellsApart`), so a
pass over pods or jobs deletes finished ones only, and stops before its first deletion where an object
does not decode (`unfinished_spared`).
-/

namespace Retention

variable {σ α : Type}

/-! ## Objects as JSON -/

/-- A JSON object in which the members of an object's data are laid over its type and metadata: where
names are repeated, the last member counts. -/
def Object.IsLaidOut (o : Object) (json : Json) : Prop :=
  ∃ data, (o.data = .object data ∨ o.data = .null ∧ data = []) ∧
    ∀ name, json.member? name = (data.reverse.lookup name).or
      ((o.typeMembers ++ [("metadata", o.metadata.toJson)]).reverse.lookup name)

theorem Object.isLaidOut_of_toJson? {o : Object} {json : Json} (written : o.toJson? = some json) :
    o.IsLaidOut json := by
  have found (data : List (String × Json)) (name : String) :
      (Json.ofMap (TextMap.ofList (o.typeMembers ++ [("metadata", o.metadata.toJson)] ++
        data))).member? name = (data.reverse.lookup name).or
          ((o.typeMembers ++ [("metadata", o.metadata.toJson)]).reverse.lookup name) := by
    rw [← List.lookup_append, ← List.reverse_append]
    exact TextMap.get?_ofList _ name
  unfold toJson? at written
  split at written
  next absent =>
    refine ⟨[], .inr ⟨absent, rfl⟩, fun name => ?_⟩
    rw [← Option.some.inj written, ← found, List.append_nil]
  next data given =>
    refine ⟨data, .inl given, fun name => ?_⟩
    rw [← Option.some.inj written, ← found]
  next => cases written

/-- An object is not written as JSON exactly where its data has no members to give. -/
theorem Object.toJson?_eq_none_iff {o : Object} :
    o.toJson? = none ↔ o.data ≠ .null ∧ ∀ data, o.data ≠ .object data := by
  unfold toJson?
  split
  next absent => simp [absent]
  next data given => simp [given]
  next absent given => exact iff_of_true rfl ⟨absent, given⟩

/-- A member of the status in a JSON object. -/
def Json.statusMember? (name : String) (json : Json) : Option Json :=
  (json.member? "status").bind (Json.member? name)

/-- The status has the phase of a pod that has succeeded. -/
def Json.HasSucceeded (json : Json) : Prop :=
  json.statusMember? "phase" = some (.string "Succeeded")

/-- The status has a time of completion. -/
def Json.HasCompleted (json : Json) : Prop :=
  ∃ value, json.statusMember? "completionTime" = some value ∧ value ≠ .null

/-! ## Decoding -/

/-- Code that decodes pods reads the phase off the status, as a text. -/
structure DecodesPods (decode : Json → Option Pod) : Prop where
  phase : ∀ json pod, decode json = some pod → ∀ text,
    pod.phase = some text ↔ json.statusMember? "phase" = some (.string text)

/-- Code that decodes jobs reads the time of completion off the status, where null stands for
absent. -/
structure DecodesJobs (decode : Json → Option Job) : Prop where
  completedAt : ∀ json job, decode json = some job →
    (job.completedAt.isSome = true ↔
      ∃ value, json.statusMember? "completionTime" = some value ∧ value ≠ .null)

section Reading

variable {json : Json} {name : String} {read : Json → Option α}

/-- The ways in which a member that may be absent is read. -/
theorem readMember?_cases {value : Option α}
    (done : Metadata.readMember? json name read = some value) :
    (value = none ∧ ∀ given, json.member? name = some given → given = .null) ∨
      ∃ given a, value = some a ∧ json.member? name = some given ∧ given ≠ .null ∧
        read given = some a := by
  unfold Metadata.readMember? at done
  split at done
  next absent =>
    cases done
    exact .inl ⟨rfl, fun _ given => nomatch absent.symm.trans given⟩
  next null =>
    cases done
    exact .inl ⟨rfl, fun _ given => (Option.some.inj (null.symm.trans given)).symm⟩
  next given isGiven present =>
    obtain ⟨a, fine, rfl⟩ := Option.map_eq_some_iff.mp done
    exact .inr ⟨given, a, rfl, present, isGiven, fine⟩

/-- The status of a typed object is what stands under this name, if it is not null. -/
theorem statusMember?_of_readTyped? {t : TypeIdentifier} {metadata : Metadata}
    {status : Option Json} (done : readTyped? t json = some (metadata, status)) (name : String) :
    json.statusMember? name = status.bind (Json.member? name) := by
  unfold readTyped? at done
  simp only [Option.bind_eq_bind, Option.bind_eq_some_iff] at done
  obtain ⟨_, -, done⟩ := done
  split at done
  · simp only [Option.bind_eq_some_iff, Option.some.injEq, Prod.mk.injEq] at done
    obtain ⟨_, -, status', read, -, rfl⟩ := done
    rcases readMember?_cases read with ⟨rfl, null⟩ | ⟨given, a, rfl, present, -, fine⟩
    · unfold Json.statusMember?
      cases present : json.member? "status" with
      | none => rfl
      | some given =>
        rw [null given present]
        rfl
    · obtain ⟨_, -, rfl⟩ := Option.map_eq_some_iff.mp fine
      rw [Json.statusMember?, present, Option.bind_some]
  · cases done

end Reading

theorem decodesPods_ofJson? : DecodesPods Pod.ofJson? := by
  constructor
  intro json pod decoded text
  unfold Pod.ofJson? at decoded
  simp only [Option.bind_eq_bind, Option.bind_eq_some_iff, Prod.exists] at decoded
  obtain ⟨metadata, status, typed, decoded⟩ := decoded
  rw [statusMember?_of_readTyped? typed]
  split at decoded
  · cases decoded
    simp
  next status =>
    split at decoded
    · simp only [Option.bind_eq_some_iff, Option.some.injEq] at decoded
      obtain ⟨phase, read, rfl⟩ := decoded
      rw [Option.bind_some]
      rcases readMember?_cases read with ⟨rfl, null⟩ | ⟨given, a, rfl, present, -, fine⟩
      · refine iff_of_false nofun fun present => ?_
        cases null _ present
      · rw [present]
        cases given <;> cases fine
        simp
    · cases decoded

theorem decodesJobs_ofJson? : DecodesJobs Job.ofJson? := by
  constructor
  intro json job decoded
  unfold Job.ofJson? at decoded
  simp only [Option.bind_eq_bind, Option.bind_eq_some_iff, Prod.exists] at decoded
  obtain ⟨metadata, status, typed, decoded⟩ := decoded
  rw [statusMember?_of_readTyped? typed]
  split at decoded
  · cases decoded
    simp
  next status =>
    split at decoded
    · simp only [Option.bind_eq_some_iff, Option.some.injEq] at decoded
      obtain ⟨completedAt, read, rfl⟩ := decoded
      rw [Option.bind_some]
      rcases readMember?_cases read with ⟨rfl, null⟩ | ⟨given, a, rfl, present, isGiven, -⟩
      · refine iff_of_false nofun ?_
        rintro ⟨value, present, isGiven⟩
        exact isGiven (null value present)
      · exact iff_of_true rfl ⟨given, present, isGiven⟩
    · cases decoded

/-! ## Verdicts -/

/-- An object decodes in its JSON form. -/
def Object.Decodes (o : Object) (decode : Json → Option α) : Prop :=
  ∃ json a, o.toJson? = some json ∧ decode json = some a

/-- An object decodes, and its JSON form is finished. -/
def Object.IsFinished (o : Object) (decode : Json → Option α) (finished : Json → Prop) : Prop :=
  ∃ json a, o.toJson? = some json ∧ decode json = some a ∧ finished json

/-- A verdict that tells finished objects from others and from those that do not decode. -/
structure TellsApart (decode : Json → Option α) (finished : Json → Prop) (o : Object)
    (verdict : Verdict) : Prop where
  conversion : (∃ resource target, verdict = .error (.conversion resource target)) ↔
    ¬ o.Decodes decode
  ok : verdict = .ok () ↔ o.IsFinished decode finished
  unprunable : (∃ resource reason, verdict = .error (.unprunable resource reason)) ↔
    o.Decodes decode ∧ ¬ o.IsFinished decode finished

/-- A verdict that passes what is finished, and vetoes all else. -/
def Verdict.Decides (verdict : Verdict) (finished : Prop) : Prop :=
  verdict = .ok () ∧ finished ∨
    (∃ resource reason, verdict = .error (.unprunable resource reason)) ∧ ¬ finished

theorem Pod.verdict_decides {decode : Json → Option Pod} (decodes : DecodesPods decode)
    {json : Json} {pod : Pod} (read : decode json = some pod) :
    pod.verdict.Decides json.HasSucceeded := by
  have phase := decodes.phase json pod read succeededPhase
  unfold verdict
  split
  next succeeded => exact .inl ⟨rfl, phase.mp succeeded⟩
  next other => exact .inr ⟨⟨_, _, rfl⟩, fun succeeded => other (phase.mpr succeeded)⟩

theorem Job.verdict_decides {decode : Json → Option Job} (decodes : DecodesJobs decode)
    {json : Json} {job : Job} (read : decode json = some job) :
    job.verdict.Decides json.HasCompleted := by
  have completion := decodes.completedAt json job read
  unfold verdict
  split
  next completed => exact .inl ⟨rfl, completion.mp completed⟩
  next other => exact .inr ⟨⟨_, _, rfl⟩, fun completed => other (completion.mpr completed)⟩

theorem Object.isFinished_iff {o : Object} {decode : Json → Option α} (finished : Json → Prop)
    {json : Json} {a : α} (written : o.toJson? = some json) (read : decode json = some a) :
    o.IsFinished decode finished ↔ finished json := by
  constructor
  · rintro ⟨json', b, written', -, finished⟩
    cases written.symm.trans written'
    exact finished
  · exact fun finished => ⟨json, a, written, read, finished⟩

namespace Registry

/-- A predicate over decoded objects whose verdict passes the finished ones and vetoes others. -/
theorem typed_tellsApart {target : String} {decode : Json → Option α} {verdict : α → Verdict}
    {finished : Json → Prop}
    (decides : ∀ json a, decode json = some a → (verdict a).Decides (finished json))
    (o : Object) (s : σ) :
    TellsApart decode finished o
      ((typed target decode (fun a => .answer (verdict a)) o).run s).answer := by
  cases decoded : o.toJson?.bind decode with
  | none =>
    have fails : ((typed target decode (fun a => .answer (verdict a)) o).run s).answer =
        .error (.conversion o.key target) := by
      simp [typed, decoded, Call.run, Call.answer]
    have never : ¬ o.Decodes decode := by
      rintro ⟨json, a, written, read⟩
      rw [written, Option.bind_some, read] at decoded
      cases decoded
    have unfinished : ¬ o.IsFinished decode finished :=
      fun ⟨json, a, written, read, _⟩ => never ⟨json, a, written, read⟩
    rw [fails]
    exact ⟨iff_of_true ⟨_, _, rfl⟩ never, iff_of_false nofun unfinished,
      iff_of_false nofun fun decodes => never decodes.1⟩
  | some a =>
    obtain ⟨json, written, read⟩ := Option.bind_eq_some_iff.mp decoded
    have judged : ((typed target decode (fun a => .answer (verdict a)) o).run s).answer =
        verdict a := by
      simp [typed, decoded, Call.run, Call.answer]
    have decodes : o.Decodes decode := ⟨json, a, written, read⟩
    have finishes := Object.isFinished_iff finished written read
    rw [judged]
    rcases decides json a read with ⟨passed, done⟩ | ⟨⟨resource, reason, vetoed⟩, undone⟩
    · rw [passed]
      exact ⟨iff_of_false nofun (not_not_intro decodes), iff_of_true rfl (finishes.mpr done),
        iff_of_false nofun fun unfinished => unfinished.2 (finishes.mpr done)⟩
    · have unfinished : ¬ o.IsFinished decode finished := fun done => undone (finishes.mp done)
      rw [vetoed]
      exact ⟨iff_of_false nofun (not_not_intro decodes), iff_of_false nofun unfinished,
        iff_of_true ⟨resource, reason, rfl⟩ ⟨decodes, unfinished⟩⟩

/-- The registry with the built-in predicates, over pods and jobs that are decoded so. -/
def decoding (pod : Json → Option Pod) (job : Json → Option Job) : Registry σ :=
  (empty.registerTyped .pod "Pod" pod fun pod => .answer pod.verdict).registerTyped .job "Job" job
    fun job => .answer job.verdict

theorem builtIn_eq_decoding : (builtIn : Registry σ) = decoding Pod.ofJson? Job.ofJson? := rfl

/-- What a registry over decoded pods and jobs says of each object. -/
structure Distinguishes (r : Registry σ) (pod : Json → Option Pod) (job : Json → Option Job) :
    Prop where
  /-- It is an error where an object does not report a version and a kind. -/
  untyped : ∀ o s, (∀ types, o.types = some types → types.apiVersion = "" ∨ types.kind = "") →
    ((r.judge o).run s).answer = .error (.missingTypeMeta o.key)
  /-- Objects of other types may be removed, whatever they are. -/
  other : ∀ o s t, o.type? = some t → t ≠ .pod → t ≠ .job → ((r.judge o).run s).answer = .ok ()
  pod : ∀ o s, o.type? = some .pod →
    TellsApart pod Json.HasSucceeded o ((r.judge o).run s).answer
  job : ∀ o s, o.type? = some .job →
    TellsApart job Json.HasCompleted o ((r.judge o).run s).answer

section Decoding

variable {pod : Json → Option Pod} {job : Json → Option Job}

theorem decoding_entries : (decoding pod job : Registry σ).entries =
    [(.job, typed "Job" job fun job => .answer job.verdict),
      (.pod, typed "Pod" pod fun pod => .answer pod.verdict)] := rfl

theorem decoding_not_contains {t : TypeIdentifier} (notPod : t ≠ .pod) (notJob : t ≠ .job) :
    (decoding pod job : Registry σ).contains t = false := by
  have job : (t == .job) = false := beq_eq_false_iff_ne.mpr notJob
  have pod : (t == .pod) = false := beq_eq_false_iff_ne.mpr notPod
  rw [contains, find?, decoding_entries, List.lookup_cons, job, List.lookup_cons, pod,
    List.lookup_nil, Option.isSome_none]

theorem decoding_distinguishes (pods : DecodesPods pod) (jobs : DecodesJobs job) :
    (decoding pod job : Registry σ).Distinguishes pod job := by
  constructor
  case untyped =>
    intro o s blank
    simp [judge, Object.type?_eq_none_iff.mpr blank, Call.run, Call.answer]
  case other =>
    intro o s t reported notPod notJob
    rw [judge_of_not_contains reported (decoding_not_contains notPod notJob)]
    rfl
  case pod =>
    intro o s reported
    have found : (decoding pod job : Registry σ).find? .pod =
        some (typed "Pod" pod fun pod => .answer pod.verdict) := rfl
    rw [judge_of_find? reported found]
    exact typed_tellsApart (fun _ _ => Pod.verdict_decides pods) o s
  case job =>
    intro o s reported
    have found : (decoding pod job : Registry σ).find? .job =
        some (typed "Job" job fun job => .answer job.verdict) := rfl
    rw [judge_of_find? reported found]
    exact typed_tellsApart (fun _ _ => Job.verdict_decides jobs) o s

end Decoding

end Registry

/-! ## The pass -/

namespace Pruner

variable {p : Pruner σ} {store : Store σ} {scene : Scene σ} {decode : Json → Option α}
  {finished : Json → Prop}

/-- What a pass over objects of one type does about those that are not finished. -/
structure SparesUnfinished (p : Pruner σ) (decode : Json → Option α) (finished : Json → Prop)
    (pass : Progress σ (List Object)) : Prop where
  /-- What is handed to the hook and to the store is finished. -/
  handed : p.strategy.SelectsCandidates →
    ∀ o ∈ handedObjects pass.trace, o.IsFinished decode finished
  /-- A listed object that does not decode, and is not kept, stops the pass before anything is
  removed. -/
  undecoded : ∀ request objects, .listed request (some (.ok objects)) ∈ pass.trace →
    ∀ l ∈ objects,
      (∀ o, l.coerce p.type = .ok o → p.preserves o = false ∧ ¬ o.Decodes decode) →
      (∃ e, pass.outcome = .error e) ∧ removals pass.trace = []

/-- A pass with a selection has gone through all that the store listed. -/
theorem Choice.sifted {selection : List Object} {after : Scene σ} {trace : List Event}
    (choice : p.Choice store scene ⟨.ok selection, after, trace⟩) {request : ListRequest}
    {objects : List Object} (listed : (request, some (.ok objects)) ∈ listings trace) :
    ∀ l ∈ objects, ∃ o, l.coerce p.type = .ok o ∧ (p.preserves o = false →
      ∃ s, ∀ e, ((p.registry.judge o).run s).answer = .error e → e.isUnprunable = true) := by
  obtain ⟨objects', candidates, middle, last, first, second, third, -, listing, filtering,
    selecting, rfl⟩ := choice.of_ok
  have filtered : listings second = [] := filtering.listings_eq
  have chosen : listings third = [] := selecting.listings_eq
  have same : objects = objects' := by
    simp [startedEvent, listing.listings_of_ok, filtered, chosen] at listed
    exact listed.2
  subst same
  intro l mem
  obtain ⟨typed, judged, soft⟩ := filtering.sifted rfl
  obtain ⟨o, coerced⟩ := typed l mem
  refine ⟨o, coerced, fun heard => ?_⟩
  have eligible : o ∈ objects.filterMap p.eligible? :=
    List.mem_filterMap.mpr ⟨l, mem, eligible?_eq_some.mpr ⟨coerced, heard⟩⟩
  rw [← judged] at eligible
  obtain ⟨⟨o, verdict⟩, asked, rfl⟩ := List.mem_map.mp eligible
  obtain ⟨-, -, -, s, answered⟩ := filtering.judged_mem asked
  refine ⟨s, fun e hard => soft o e ?_⟩
  rw [← hard, ← answered]
  exact asked

/-- A pass whose registry tells the objects of its type apart spares those that are not finished. -/
theorem sparesUnfinished_of_tellsApart {t : TypeIdentifier} (own : p.type = t)
    (readBack : t.readBack = t) (version : t.version ≠ "") (kind : t.kind ≠ "")
    (tells : ∀ o s, o.type? = some t →
      TellsApart decode finished o ((p.registry.judge o).run s).answer)
    (store : Store σ) (scene : Scene σ) :
    p.SparesUnfinished decode finished ((p.prune store).run scene) := by
  subst own
  have typed {l o : Object} (coerced : l.coerce p.type = .ok o) : o.type? = some p.type := by
    rw [Object.type?_of_coerce version kind coerced, readBack]
  have course := prune_course (p := p) store scene
  constructor
  case handed =>
    intro selects o mem
    have judged := (course.survivor_of_handed selects o mem).prunable
    obtain ⟨l, coerced, s, passed⟩ := judged_of_mem judged
    exact (tells o s (typed coerced)).ok.mp passed.symm
  case undecoded =>
    intro request objects listed l mem fails
    generalize (p.prune store).run scene = pass at course listed ⊢
    rcases course.continuation with
      ⟨e, after, trace, chosen, rfl⟩ | ⟨selection, middle, first, later, chosen, continued⟩
    · exact ⟨⟨e, rfl⟩, (choice_of_run chosen).removals_eq⟩
    · have seen : (request, some (.ok objects)) ∈ listings pass.trace :=
        mem_viewed.mpr ⟨_, listed, rfl⟩
      rw [← listings_inquiries, continued.inquiries_eq, listings_inquiries] at seen
      obtain ⟨o, coerced, soft⟩ := (choice_of_run chosen).sifted seen l mem
      obtain ⟨heard, undecoded⟩ := fails o coerced
      obtain ⟨s, soft⟩ := soft heard
      obtain ⟨resource, target, hard⟩ := (tells o s (typed coerced)).conversion.mpr undecoded
      cases soft _ hard

end Pruner

/-- With code that decodes pods and jobs as it should, the built-in predicates tell finished pods and
jobs from others and from what does not decode, say nothing about objects of other types, and refuse
those without a type.  So a pass over pods or jobs hands only finished ones to its hook and its store,
and an object that does not decode stops it before anything is removed. -/
theorem unfinished_spared {pod : Json → Option Pod} {job : Json → Option Job}
    (pods : DecodesPods pod) (jobs : DecodesJobs job) :
    (Registry.builtIn : Registry σ) = .decoding Pod.ofJson? Job.ofJson? ∧
    (Registry.decoding pod job : Registry σ).Distinguishes pod job ∧
    (∀ o : Object, (∀ json, o.toJson? = some json → o.IsLaidOut json) ∧
      (o.toJson? = none ↔ o.data ≠ .null ∧ ∀ data, o.data ≠ .object data)) ∧
    ∀ (p : Pruner σ) (store : Store σ) (scene : Scene σ), p.registry = .decoding pod job →
      (p.type = .pod →
        p.SparesUnfinished pod Json.HasSucceeded ((p.prune store).run scene)) ∧
      (p.type = .job →
        p.SparesUnfinished job Json.HasCompleted ((p.prune store).run scene)) := by
  have distinguishes : (Registry.decoding pod job : Registry σ).Distinguishes pod job :=
    Registry.decoding_distinguishes pods jobs
  refine ⟨Registry.builtIn_eq_decoding, distinguishes, ?_, ?_⟩
  · exact fun o => ⟨fun _ => Object.isLaidOut_of_toJson?, Object.toJson?_eq_none_iff⟩
  · intro p store scene registry
    rw [← registry] at distinguishes
    exact ⟨fun typed => Pruner.sparesUnfinished_of_tellsApart typed (by decide +kernel) (by decide)
        (by decide) distinguishes.pod store scene,
      fun typed => Pruner.sparesUnfinished_of_tellsApart typed (by decide +kernel) (by decide)
        (by decide) distinguishes.job store scene⟩

/-! ## Rehearsed pods -/

namespace Rehearsed

/-- A pod with a status. -/
def podWith (status : Json) (name : String) (second : Int) : Object :=
  { bare name second with data := .object [("status", status)] }

/-- The status of a pod in some phase. -/
def phase (text : String) : Json := .object [("phase", .string text)]

/-- A pruner of old pods with the built-in predicates. -/
def plainPruner : Pruner Stage := Pruner.ofStrategy (.olderThan .epoch) Stage.now

/-- Two old pods, of which one has succeeded. -/
def mixedStage : Stage :=
  .start [podWith (phase "Running") "a" (-3), podWith (phase "Succeeded") "b" (-2)] .epoch

/-- The same pods and one with a status that is none. -/
def brokenStage : Stage :=
  { mixedStage with objects := mixedStage.objects ++ [podWith (.string "gone") "c" (-1)] }

end Rehearsed

open Rehearsed in
theorem unfinished_spared_rehearsed :
    DecodesPods Pod.ofJson? ∧ DecodesJobs Job.ofJson? ∧
      plainPruner.SparesUnfinished Pod.ofJson? Json.HasSucceeded
        ((plainPruner.prune Stage.store).run ⟨mixedStage, .quiet⟩) ∧
      (handedObjects ((plainPruner.prune Stage.store).run ⟨mixedStage, .quiet⟩).trace).map
        Object.key = [⟨none, "b"⟩] ∧
      ((plainPruner.prune Stage.store).run ⟨brokenStage, .quiet⟩).outcome =
        .error (.predicate ⟨none, "c"⟩ (.conversion ⟨none, "c"⟩ "Pod")) := by
  obtain ⟨-, -, -, passes⟩ := unfinished_spared decodesPods_ofJson? decodesJobs_ofJson?
  have spares := (passes plainPruner Stage.store ⟨mixedStage, .quiet⟩ rfl).1 rfl
  exact ⟨decodesPods_ofJson?, decodesJobs_ofJson?, spares, by decide +kernel, by rfl⟩

end Retention
