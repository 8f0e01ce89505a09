import CloudScaffold.Proofs.Provision.Refusal
import CloudScaffold.Proofs.Server.Generate
/-!
# Answers to operations

A request to provision files is answered by what is known of it before anything runs: 404 for an
operation that there is not, 409 for an environment that is busy, 400 for a name that no file of a
directory itself has, and otherwise 200 with the report of the run, whatever its processes do
(`Mapped`). There is one exception: the names of the directory itself and of the one above it are let
through to the writing of the files, and to open a directory for writing is a failure of the server
(`OpensDirectory`).

Main statement: `terraform_mapped`.
-/
namespace CloudScaffold.Server

open Provision (Directory FileFault FileList Operation Report RunError Runner Strays World nameFault?
  nameLimit)

/-! ## The answers -/

/-- A name that a file of a directory itself can have. -/
structure NamesFile (name : String) : Prop where
  within : ¬ Strays name
  noNul : '\x00' ∉ name.toList
  noDots : name ≠ "." ∧ name ≠ ".."

/-- What a handler answers in a state of the server. -/
def Handler.respond (x : Handler Response) (s : State) : Response := (Id.run (x.run s)).1

/-- The answer to an operation on files for an environment, as it is told from the operation, the
environment and the names. -/
structure Mapped (r : Runner) (w : World) (operation environment : String) (files : FileList)
    (response : Response) : Prop where
  answered : response ≠ .failed
  unknown : Operation.ofName? operation = none → response.status = 404
  busy : ∀ op, Operation.ofName? operation = some op → w.isBusy environment = true →
    response.status = 409
  unwritable : ∀ op, Operation.ofName? operation = some op → w.isBusy environment = false →
    (∃ f ∈ files, ¬ NamesFile f.1) → response.status = 400
  ran : ∀ op, Operation.ofName? operation = some op → w.isBusy environment = false →
    (∀ f ∈ files, NamesFile f.1) → ∃ report,
      (r.perform (.operate op environment files .patient) w).value = .ok (.report report) ∧
        response = .answered 200 (reportView report)

/-- Whether the first name that is not of a file is that of the directory itself or of the one
above it. -/
def StopsAtDots (files : FileList) : Prop :=
  ∃ before f after, files = before ++ f :: after ∧ (∀ g ∈ before, NamesFile g.1) ∧
    (f.1 = "." ∨ f.1 = "..")

/-- Whether an operation comes to the writing of its files and opens a directory there. -/
structure OpensDirectory (w : World) (operation environment : String) (files : FileList) : Prop where
  known : ∃ op, Operation.ofName? operation = some op
  free : w.isBusy environment = false
  stops : StopsAtDots files

/-! ## Names -/

section
variable {name : String} {files : FileList} {e : FileFault}

theorem nameFault?_eq_none_of_namesFile (h : NamesFile name) (hlong : name.utf8ByteSize ≤ nameLimit) :
    nameFault? name = none :=
  Provision.nameFault?_eq_none_iff.2 ⟨h.within, h.noNul, h.noDots.1, h.noDots.2, hlong⟩

theorem namesFile_of_nameFault? (h : nameFault? name = none) : NamesFile name := by
  obtain ⟨hstray, hnul, hdot, hdots, -⟩ := Provision.nameFault?_eq_none_iff.1 h
  exact ⟨hstray, hnul, hdot, hdots⟩

theorem nameFault?_of_dots (h : name = "." ∨ name = "..") : nameFault? name = some (.isDirectory name) := by
  rcases h with rfl | rfl <;> decide +kernel

/-- The fault of a name that is not too long: the name is of no file, holds a null character, or stands
for a directory. -/
theorem nameFault?_cases (h : nameFault? name = some e) (hlong : name.utf8ByteSize ≤ nameLimit) :
    e = .invalidName name ∨ e = .nulInName ∨ e = .isDirectory name ∧ (name = "." ∨ name = "..") := by
  simp only [nameFault?, if_neg (Nat.not_lt.2 hlong)] at h
  split at h
  · exact .inl (Option.some.inj h).symm
  · split at h
    · exact .inr (.inl (Option.some.inj h).symm)
    · split at h
      · next hdots => exact .inr (.inr ⟨(Option.some.inj h).symm, by simpa using hdots⟩)
      · cases h

/-- The writing of files ends with the fault of the first name that is not of a file. -/
theorem write_fault_iff (hlong : ∀ f ∈ files, f.1.utf8ByteSize ≤ nameLimit) :
    Directory.write [] files = .error e ↔ ∃ before f after, files = before ++ f :: after ∧
      (∀ g ∈ before, NamesFile g.1) ∧ nameFault? f.1 = some e := by
  have hwriting : Directory.write [] files = .error e ↔
      (files.findSome? fun f => nameFault? f.1) = some e := by
    rw [Directory.write_eq_writing, ← Directory.writing_fault []]
    cases (Directory.writing [] files).2 <;> simp
  rw [hwriting, List.findSome?_eq_some_iff]
  constructor
  · rintro ⟨before, f, after, hfiles, hf, hbefore⟩
    exact ⟨before, f, after, hfiles, fun g hg => namesFile_of_nameFault? (hbefore g hg), hf⟩
  · rintro ⟨before, f, after, hfiles, hbefore, hf⟩
    refine ⟨before, f, after, hfiles, hf, fun g hg => nameFault?_eq_none_of_namesFile (hbefore g hg) ?_⟩
    exact hlong g (hfiles ▸ List.mem_append_left _ hg)

/-- If dots stop the writing, they are its fault. -/
theorem write_of_stopsAtDots (hlong : ∀ f ∈ files, f.1.utf8ByteSize ≤ nameLimit)
    (h : StopsAtDots files) : ∃ name, Directory.write [] files = .error (.isDirectory name) := by
  obtain ⟨before, f, after, hfiles, hbefore, hf⟩ := h
  exact ⟨f.1, (write_fault_iff hlong).2 ⟨before, f, after, hfiles, hbefore, nameFault?_of_dots hf⟩⟩

theorem not_stopsAtDots (h : ∀ f ∈ files, NamesFile f.1) : ¬ StopsAtDots files := by
  rintro ⟨before, f, after, rfl, -, hf⟩
  have hnames := h f (List.mem_append_right _ List.mem_cons_self)
  exact hf.elim hnames.noDots.1 hnames.noDots.2

/-- Names that are not all of files and that dots do not stop have a fault that is told. -/
theorem write_of_not_namesFile (hlong : ∀ f ∈ files, f.1.utf8ByteSize ≤ nameLimit)
    (hnames : ¬ ∀ f ∈ files, NamesFile f.1) (hdots : ¬ StopsAtDots files) :
    ∃ e, Directory.write [] files = .error e ∧ ((∃ name, e = .invalidName name) ∨ e = .nulInName) := by
  cases hwrite : Directory.write [] files with
  | ok content =>
    rw [Directory.write_eq_writing, Directory.writing_fault] at hwrite
    split at hwrite
    · cases hwrite
    · next hnone =>
      exact absurd (fun f hf => namesFile_of_nameFault? (List.findSome?_eq_none_iff.1 hnone f hf)) hnames
  | error e =>
    obtain ⟨before, f, after, hfiles, hbefore, hf⟩ := (write_fault_iff hlong).1 hwrite
    have hmem : f ∈ files := hfiles ▸ List.mem_append_right _ List.mem_cons_self
    refine ⟨e, rfl, ?_⟩
    rcases nameFault?_cases hf (hlong f hmem) with rfl | rfl | ⟨-, hd⟩
    · exact .inl ⟨_, rfl⟩
    · exact .inr rfl
    · exact absurd ⟨before, f, after, hfiles, hbefore, hd⟩ hdots

end

/-! ## Bodies -/

section
variable {doc : Attributes} {environment : String} {files : FileList}

theorem textEntries_texts (k : String) (files : FileList) :
    textEntries k (files.map fun f => (f.1, .str f.2)) = .ok files := by
  induction files with
  | nil => rfl
  | cons f files ih =>
    rw [List.map_cons, textEntries, ih]
    rfl

/-- A body with an environment and with files is read as such. -/
theorem ProvisionBody.ofMembers_of_members (henv : doc.get? "environment" = some (.str environment))
    (hfiles : doc.get? "files" = some (.map (files.map fun f => (f.1, .str f.2)))) :
    ProvisionBody.ofMembers doc = .ok ⟨environment, files⟩ := by
  have htexts : requiredTexts doc "files" = .ok files := by
    rw [requiredTexts, hfiles]
    exact textEntries_texts _ files
  rw [ProvisionBody.ofMembers, requiredText_eq_ok.2 henv, htexts]
  rfl

end

/-! ## Operations -/

theorem isSendable_eventView (e : Provision.Event) : isSendable (eventView e) = true := by
  obtain ⟨stage, status, result⟩ := e
  cases result <;> rfl

/-- Every report can be sent. -/
theorem isSendable_reportView (report : Report) : isSendable (reportView report) = true := by
  have hevents : areSendable (report.events.map eventView) = true := by
    rw [areSendable_iff]
    intro x hx
    obtain ⟨e, _, rfl⟩ := List.mem_map.1 hx
    exact isSendable_eventView e
  simp [reportView, isSendable, entriesSendable, hevents]

theorem status_refuseText (status : Nat) (detail : String) : (refuseText status detail).status = status :=
  rfl

section
variable {c : Config} {s : State} {operation environment : String} {files : FileList} {op : Operation}

/-- A known operation is answered by what the runner comes to. -/
theorem respond_of_known (hop : Operation.ofName? operation = some op) :
    (handleTerraform c operation ⟨environment, files⟩).respond s =
      answerRun (c.runner.perform (.operate op environment files .patient) s.world).value := by
  rw [handleTerraform, hop]
  rfl

theorem respond_of_unknown (hop : Operation.ofName? operation = none) :
    (handleTerraform c operation ⟨environment, files⟩).respond s =
      refuseText 404 s!"Unknown operation '{operation}'" := by
  rw [handleTerraform, hop]
  rfl

theorem respond_of_busy (hop : Operation.ofName? operation = some op)
    (hbusy : s.world.isBusy environment = true) :
    (handleTerraform c operation ⟨environment, files⟩).respond s =
      refuseText 409 (RunError.busy environment).message := by
  rw [respond_of_known hop, Runner.perform_of_busy hbusy]
  rfl

/-- Files that cannot be written are answered by their fault. -/
theorem respond_of_fault {e : FileFault} (hop : Operation.ofName? operation = some op)
    (hfree : s.world.isBusy environment = false) (h : Directory.write [] files = .error e) :
    (handleTerraform c operation ⟨environment, files⟩).respond s = answerRun (.error (.file e)) := by
  rw [respond_of_known hop,
    c.runner.perform_of_fault (a := .operate op environment files .patient) hfree h]

/-- Files that can be written come to a report, whatever the processes do. -/
theorem respond_of_namesFile (hop : Operation.ofName? operation = some op)
    (hfree : s.world.isBusy environment = false) (hnames : ∀ f ∈ files, NamesFile f.1)
    (hlong : ∀ f ∈ files, f.1.utf8ByteSize ≤ nameLimit) (hscript : s.world.script.OnlyCalls) :
    ∃ report, (c.runner.perform (.operate op environment files .patient) s.world).value =
        .ok (.report report) ∧
      (handleTerraform c operation ⟨environment, files⟩).respond s =
        .answered 200 (reportView report) := by
  have hwrite : ∀ f ∈ files, nameFault? f.1 = none := fun f hf =>
    nameFault?_eq_none_of_namesFile (hnames f hf) (hlong f hf)
  have hpatient : ∀ es, Provision.Listener.patient es = false := fun _ => rfl
  obtain ⟨report, rounds, hvalue, -⟩ := @Provision.perform_runsThrough c.runner op environment files
    .patient s.world hscript hfree hwrite hpatient
  refine ⟨report, hvalue, ?_⟩
  rw [respond_of_known hop, hvalue, answerRun, answer, if_pos (isSendable_reportView report)]

end

/-! ## The answers are as they should be -/

section
variable {r : Runner} {w : World} {operation environment : String} {files : FileList}
  {response : Response} {op : Operation}

theorem ne_failed (h : response.status ≠ 500) : response ≠ .failed := by
  rintro rfl
  exact h rfl

theorem Mapped.of_unknown (hop : Operation.ofName? operation = none) (h : response.status = 404) :
    Mapped r w operation environment files response where
  answered := ne_failed (by rw [h]; decide)
  unknown _ := h
  busy op' hop' := by rw [hop] at hop'; cases hop'
  unwritable op' hop' := by rw [hop] at hop'; cases hop'
  ran op' hop' := by rw [hop] at hop'; cases hop'

theorem Mapped.of_busy (hop : Operation.ofName? operation = some op)
    (hbusy : w.isBusy environment = true) (h : response.status = 409) :
    Mapped r w operation environment files response where
  answered := ne_failed (by rw [h]; decide)
  unknown hnone := by rw [hop] at hnone; cases hnone
  busy _ _ _ := h
  unwritable _ _ hfree := by rw [hbusy] at hfree; cases hfree
  ran _ _ hfree := by rw [hbusy] at hfree; cases hfree

theorem Mapped.of_unwritable (hop : Operation.ofName? operation = some op)
    (hfree : w.isBusy environment = false) (hnames : ¬ ∀ f ∈ files, NamesFile f.1)
    (h : response.status = 400) : Mapped r w operation environment files response where
  answered := ne_failed (by rw [h]; decide)
  unknown hnone := by rw [hop] at hnone; cases hnone
  busy _ _ hbusy := by rw [hfree] at hbusy; cases hbusy
  unwritable _ _ _ _ := h
  ran _ _ _ hall := absurd hall hnames

theorem Mapped.of_ran {report : Report} (hop : Operation.ofName? operation = some op)
    (hfree : w.isBusy environment = false) (hnames : ∀ f ∈ files, NamesFile f.1)
    (hvalue : (r.perform (.operate op environment files .patient) w).value = .ok (.report report))
    (h : response = .answered 200 (reportView report)) :
    Mapped r w operation environment files response where
  answered := ne_failed (by rw [h]; exact fun h => by cases h)
  unknown hnone := by rw [hop] at hnone; cases hnone
  busy _ _ hbusy := by rw [hfree] at hbusy; cases hbusy
  unwritable := fun _ _ _ ⟨f, hf, hno⟩ => absurd (hnames f hf) hno
  ran op' hop' _ _ := by
    rw [hop] at hop'
    cases hop'
    exact ⟨report, hvalue, h⟩

end

section
variable {c : Config} {s : State} {content : Content} {doc : Attributes} {operation environment : String}
  {files : FileList}

/-- Where a directory is opened, the server fails. -/
theorem handleTerraform_failed (hlong : ∀ f ∈ files, f.1.utf8ByteSize ≤ nameLimit)
    (h : OpensDirectory s.world operation environment files) :
    (handleTerraform c operation ⟨environment, files⟩).respond s = .failed := by
  obtain ⟨op, hop⟩ := h.known
  obtain ⟨name, hwrite⟩ := write_of_stopsAtDots hlong h.stops
  rw [respond_of_fault hop h.free hwrite]
  rfl

/-- Operations are answered as they should be, unless a directory is opened. -/
theorem handleTerraform_mapped (hlong : ∀ f ∈ files, f.1.utf8ByteSize ≤ nameLimit)
    (hscript : s.world.script.OnlyCalls) (h : ¬ OpensDirectory s.world operation environment files) :
    Mapped c.runner s.world operation environment files
      ((handleTerraform c operation ⟨environment, files⟩).respond s) := by
  cases hop : Operation.ofName? operation with
  | none => exact .of_unknown hop (by rw [respond_of_unknown hop, status_refuseText])
  | some op =>
    cases hbusy : s.world.isBusy environment with
    | true => exact .of_busy hop hbusy (by rw [respond_of_busy hop hbusy, status_refuseText])
    | false =>
      by_cases hnames : ∀ f ∈ files, NamesFile f.1
      · obtain ⟨report, hvalue, hrespond⟩ := respond_of_namesFile hop hbusy hnames hlong hscript
        exact .of_ran hop hbusy hnames hvalue hrespond
      · have hdots : ¬ StopsAtDots files := fun hdots => h ⟨⟨op, hop⟩, hbusy, hdots⟩
        obtain ⟨e, hwrite, he⟩ := write_of_not_namesFile hlong hnames hdots
        refine .of_unwritable hop hbusy hnames ?_
        rw [respond_of_fault hop hbusy hwrite]
        rcases he with ⟨name, rfl⟩ | rfl <;> exact status_refuseText _ _

/-- A request whose body has an environment and files is handled with these. -/
theorem handleRoute_terraform (hcontent : readContent content = .ok (some (.map doc)))
    (henv : doc.get? "environment" = some (.str environment))
    (hfiles : doc.get? "files" = some (.map (files.map fun f => (f.1, .str f.2)))) :
    handleRoute c content (.terraform operation) =
      handleTerraform c operation ⟨environment, files⟩ := by
  have hread : (bodyMembers (some (.map doc))).bind ProvisionBody.ofMembers =
      .ok ⟨environment, files⟩ := ProvisionBody.ofMembers_of_members henv hfiles
  rw [handleRoute, withBody, hcontent]
  dsimp only
  rw [hread]

/-- A request that is posted to the place of an operation is handled there. -/
theorem handle_terraform {request : HttpRequest} (hmethod : request.method.toUpper = "POST")
    (hroute : Route.ofReference request.path = .ok (some (.terraform operation))) :
    (Id.run ((handle c request).run.run s)).1 =
      .ok ((handleRoute c request.content (.terraform operation)).respond s) := by
  have hat : handleAt c request (some (.terraform operation)) =
      handleRoute c request.content (.terraform operation) := by
    simp [handleAt, hmethod, Route.methods]
  rw [handle, hroute, ← hat]
  rfl

/-- **Every request for an operation has its answer**, unless it opens a directory. Take any operation,
any environment and any files whose names are not too long, in the body of a request, and a script of
processes. Where no directory is opened, the request is answered as it should be, and where one is, the
server fails. -/
theorem terraform_mapped (hcontent : readContent content = .ok (some (.map doc)))
    (henv : doc.get? "environment" = some (.str environment))
    (hfiles : doc.get? "files" = some (.map (files.map fun f => (f.1, .str f.2))))
    (hlong : ∀ f ∈ files, f.1.utf8ByteSize ≤ nameLimit) (hscript : s.world.script.OnlyCalls) :
    ∃ response, (handleRoute c content (.terraform operation)).respond s = response ∧
      (∀ request : HttpRequest, request.content = content → request.method.toUpper = "POST" →
        Route.ofReference request.path = .ok (some (.terraform operation)) →
          (Id.run ((handle c request).run.run s)).1 = .ok response) ∧
      (¬ OpensDirectory s.world operation environment files →
        Mapped c.runner s.world operation environment files response) ∧
      (OpensDirectory s.world operation environment files → response = .failed) := by
  refine ⟨_, rfl, ?_, ?_⟩
  · rintro request rfl hmethod hroute
    exact handle_terraform hmethod hroute
  · rw [handleRoute_terraform hcontent henv hfiles]
    exact ⟨handleTerraform_mapped hlong hscript, handleTerraform_failed hlong⟩

end

theorem ofReference_deploy :
    Route.ofReference "/terraform/deploy" = .ok (some (.terraform "deploy")) := by
  have h : (Route.ofReference "/terraform/deploy").toOption = some (some (.terraform "deploy")) := by
    decide +kernel
  cases hr : Route.ofReference "/terraform/deploy" with
  | ok route => rw [hr] at h; cases h; rfl
  | error e => rw [hr] at h; cases h

/-- A server whose runner tries once more, with the script of a world and without an assistant. -/
def Config.trying : Config where
  runner := { binary := "terraform", timeout := 900, retries := 1 }
  reply _ := none

/-- A deployment with a name of three dots, which is one of a file, and with a process that fails: the
report is the answer. -/
theorem terraform_mapped_deploy :
    let s : State := { world := { World.faltering with busy := ["prod"] } }
    let files : FileList := [("main.tf", "x"), ("...", "")]
    let doc : Attributes := [("environment", .str "dev"),
      ("files", .map [("main.tf", .str "x"), ("...", .str "")])]
    ∃ report, (Config.trying.runner.perform (.operate .deploy "dev" files .patient) s.world).value =
        .ok (.report report) ∧
      (Id.run ((handle .trying
        { method := "post", path := "/terraform/deploy", content := .json (.map doc) }).run.run s)).1 =
          .ok (.answered 200 (reportView report)) := by
  intro s files doc
  have hwrite : ∀ f ∈ files, nameFault? f.1 = none := by decide +kernel
  have hnames : ∀ f ∈ files, NamesFile f.1 := fun f hf => namesFile_of_nameFault? (hwrite f hf)
  have hscript : s.world.script.OnlyCalls := by simp [Provision.Script.OnlyCalls, s, World.faltering]
  obtain ⟨response, -, hhandle, hmapped, -⟩ := @terraform_mapped .trying s (.json (.map doc)) doc
    "deploy" "dev" files rfl rfl rfl (by decide +kernel) hscript
  obtain ⟨report, hvalue, rfl⟩ :=
    (hmapped fun h => not_stopsAtDots hnames h.stops).ran .deploy (by decide) (by decide) hnames
  exact ⟨report, hvalue, hhandle _ rfl (by decide +kernel) ofReference_deploy⟩

/-- A file with the name of the directory itself, for an environment that is free: the server fails. -/
theorem terraform_opens_directory :
    let s : State := { world := World.faltering }
    let doc : Attributes := [("environment", .str "dev"), ("files", .map [(".", .str "x")])]
    s.world.isBusy "dev" = false ∧ ¬ NamesFile "." ∧
      (Id.run ((handle .trying
        { method := "POST", path := "/terraform/deploy", content := .json (.map doc) }).run.run s)).1 =
          .ok .failed := by
  intro s doc
  have hopens : OpensDirectory s.world "deploy" "dev" [(".", "x")] :=
    ⟨⟨.deploy, by decide⟩, by decide, [], _, [], rfl, List.forall_mem_nil _, .inl rfl⟩
  have hroute : handleRoute .trying (.json (.map doc)) (.terraform "deploy") =
      handleTerraform .trying "deploy" ⟨"dev", [(".", "x")]⟩ := handleRoute_terraform rfl rfl rfl
  have hfailed : (handleRoute .trying (.json (.map doc)) (.terraform "deploy")).respond s = .failed := by
    rw [hroute]
    exact handleTerraform_failed (by decide +kernel) hopens
  refine ⟨hopens.free, fun h => h.noDots.1 rfl, ?_⟩
  rw [← hfailed]
  exact handle_terraform (by decide +kernel) ofReference_deploy

end CloudScaffold.Server
