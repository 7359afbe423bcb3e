import ComputeMesh.Lib.Run
import ComputeMesh.Platform.LocalWorkspace

/-!
# Workspaces are confined and apart

The transport, its files and the executors that drive it, in any order of calls: of executors, of others that present
leases of their own making, and of whoever else changes the files.

* `workspaceOf` — the directory of an environment, and `workspaces_apart` for two of them;
* `Workspaces.Sound` — what is known of every lease, with a lemma for each method;
* `WorkspaceWorld`, `WorkspaceStep` — the system and its steps; `Confined` — what a step may do;
* `workspaces_confined` — **every step of every run is confined.**

An identifier may be a single or a double dot, which names no directory of its own, and so may the path of a write be;
the conditions of `Admissible` leave these out.
-/

namespace ComputeMesh.Platform

open ComputeMesh.PosixPath ComputeMesh.Text List

/-- Both identifiers name a directory: they are not the dots that stand for another one. -/
def SpecFields.NamesWorkspace (s : SpecFields) : Prop :=
  (s.sessionId ≠ "." ∧ s.sessionId ≠ "..") ∧ s.environmentId ≠ "." ∧ s.environmentId ≠ ".."

/-- The directory of an environment. -/
def workspaceOf (root : Path) (s : SpecFields) : Path := root ++ ["sessions", s.sessionId, s.environmentId]

/-! ### Directories of environments -/

theorem parts_of_isIdentifier {n : ℕ} {id : String} (h : isIdentifier n id = true) (hdot : id ≠ ".") :
    parts id = [id] := by
  simp only [isIdentifier, Bool.and_eq_true, all_eq_true, decide_eq_true_eq] at h
  obtain ⟨⟨hchars, hlength⟩, -⟩ := h
  apply parts_name
  · intro hslash
    have := hchars '/' hslash
    exact absurd this (by decide)
  · have hne : id ≠ "" := by
      intro hempty
      rw [hempty] at hlength
      simp at hlength
    simp [kept, hne, hdot]

theorem EnvironmentSpec.ids (s : EnvironmentSpec) :
    isIdentifier 160 s.environmentId = true ∧ isIdentifier 160 s.sessionId = true := by
  have h := s.checked
  obtain ⟨_, -, h⟩ := bind_eq_ok_iff.mp h
  obtain ⟨_, hids, -⟩ := bind_eq_ok_iff.mp h
  have hall := checkEach_eq_ok_iff.mp hids
  have henvironment := hall (s.environmentId, "environment_id") (by simp)
  have hsession := hall (s.sessionId, "session_id") (by simp)
  simp only [checkId, ite_error_eq_ok_iff, Bool.not_eq_false, and_true] at henvironment hsession
  exact ⟨henvironment, hsession⟩

theorem workspaceOf_apart (root : Path) {s s' : SpecFields}
    (hne : (s.sessionId, s.environmentId) ≠ (s'.sessionId, s'.environmentId)) :
    Apart (workspaceOf root s) (workspaceOf root s') := by
  apply apart_of_length
  · simp [workspaceOf]
  · intro h
    have := append_cancel_left h
    simp only [cons.injEq, true_and, and_true] at this
    exact hne (Prod.ext this.1 this.2)

/-! ### What is known of the leases -/

/-- Links lie inside the workspaces alone: neither on the way to the root nor as deep as a workspace itself. -/
def NoHiddenLinks (root : Path) (t : FileTree) : Prop :=
  ∀ p, t.isLink p = true → ¬p <+: root ∧ (root <+: p → root.length + 3 < p.length)

variable {workspace : Path}

namespace Workspaces

/-- Every lease the transport knows was issued, for an environment whose directory it names. -/
structure Sound (w : Workspaces) : Prop where
  root : ".." ∉ w.root
  links : NoHiddenLinks w.root w.files
  leases : ∀ leaseId record, w.leases.get? leaseId = some record → ∃ spec, w.issued.get? leaseId = some spec ∧
    spec.NamesWorkspace ∧ record.environmentId = spec.environmentId ∧ record.workspace = workspaceOf w.root spec.toSpecFields

variable {w : Workspaces} {env : WorkspaceEnv}

theorem Sound.solid (h : w.Sound) {s : SpecFields} (hnames : s.NamesWorkspace) : w.Solid (workspaceOf w.root s) := by
  refine ⟨?_, ?_⟩
  · intro hmem
    simp only [workspaceOf, mem_append, mem_cons, not_mem_nil, or_false] at hmem
    rcases hmem with hmem | hmem | hmem | hmem
    · exact h.root hmem
    · exact absurd hmem (by decide)
    · exact hnames.1.2 hmem.symm
    · exact hnames.2.2 hmem.symm
  · intro q hq hne
    show w.files.isLink q = false
    by_contra hlink
    obtain ⟨hup, hdeep⟩ := h.links q (by simpa using hlink)
    rcases prefix_or_prefix_of_prefix hq (prefix_append w.root _) with hroot | hroot
    · exact hup hroot
    · have hlength := hq.length_le
      have := hdeep hroot
      simp [workspaceOf] at hlength
      omega

theorem candidate_eq (w : Workspaces) (s : EnvironmentSpec) (hnames : s.NamesWorkspace) :
    w.candidate s.toSpecFields = workspaceOf w.root s.toSpecFields := by
  obtain ⟨henvironment, hsession⟩ := s.ids
  rw [candidate, parts_of_isIdentifier hsession hnames.1.1, parts_of_isIdentifier henvironment hnames.2.1]
  rfl

/-- **The directory that `_workspace_path` makes.** -/
theorem workspacePath_eq_ok (h : w.Sound) {s : EnvironmentSpec} (hnames : s.NamesWorkspace)
    {w' : Workspaces} (hpath : w.workspacePath s.toSpecFields = .ok (workspace, w')) :
    workspace = workspaceOf w.root s.toSpecFields ∧ Kept w w' ∧ w'.touched = w.touched := by
  have hsolid := h.solid hnames
  simp only [workspacePath, w.candidate_eq s hnames, FileTree.resolve_eq_self hsolid.1 hsolid.2,
    ite_error_eq_ok_iff] at hpath
  obtain ⟨-, hpath⟩ := hpath
  split at hpath
  · cases hpath
  · rename_i files hfiles
    cases hpath
    exact ⟨rfl, ⟨rfl, rfl, rfl, rfl, fun p hp => FileTree.isLink_mkdirs hfiles hp⟩, rfl⟩

/-- **The directories of any two environments are apart.** -/
theorem workspacePath_apart (h : w.Sound) {s s' : EnvironmentSpec} (hnames : s.NamesWorkspace)
    (hnames' : s'.NamesWorkspace) (hne : (s.sessionId, s.environmentId) ≠ (s'.sessionId, s'.environmentId))
    {d d' : Path} {v v' : Workspaces} (hd : w.workspacePath s.toSpecFields = .ok (d, v))
    (hd' : w.workspacePath s'.toSpecFields = .ok (d', v')) : Apart d d' := by
  rw [(workspacePath_eq_ok h hnames hd).1, (workspacePath_eq_ok h hnames' hd').1]
  exact workspaceOf_apart w.root hne

theorem NoHiddenLinks.of_links {root : Path} {t t' : FileTree} (h : NoHiddenLinks root t)
    (hlinks : ∀ p, t'.isLink p = true → t.isLink p = true) : NoHiddenLinks root t' :=
  fun p hp => h p (hlinks p hp)

theorem Sound.kept {w' : Workspaces} (h : w.Sound) (hkept : Kept w w') : w'.Sound where
  root := hkept.root ▸ h.root
  links := hkept.root ▸ NoHiddenLinks.of_links h.links hkept.links
  leases := by
    rw [hkept.leases, hkept.issued, hkept.root]
    exact h.leases

/-- What a call other than an operation leaves: the same root, no file touched, no new link, and every lease handed out
before. -/
structure Onward (w w' : Workspaces) : Prop where
  sound : w'.Sound
  root : w'.root = w.root
  touched : w'.touched = w.touched
  granted : ∀ lease ∈ w.granted, lease ∈ w'.granted
  links : ∀ p, w'.files.isLink p = true → w.files.isLink p = true

theorem Onward.refl (h : w.Sound) : Onward w w := ⟨h, rfl, rfl, fun _ hmem => hmem, fun _ hp => hp⟩

theorem onward_prepare (env : WorkspaceEnv) (h : w.Sound) {s : EnvironmentSpec} (hnames : s.NamesWorkspace) :
    Onward w (w.prepare env s).2 ∧
      ∀ lease, (w.prepare env s).1 = .ok lease → lease ∈ (w.prepare env s).2.granted := by
  unfold prepare
  split
  · exact ⟨Onward.refl h, nofun⟩
  · split
    · exact ⟨Onward.refl h, nofun⟩
    · rename_i workspace w' hpath
      obtain ⟨rfl, hkept, htouched⟩ := workspacePath_eq_ok h hnames hpath
      have hsound := h.kept hkept
      refine ⟨⟨⟨hsound.root, hsound.links, ?_⟩, hkept.root, htouched, ?_, hkept.links⟩, ?_⟩
      · intro leaseId record hget
        dsimp only at hget ⊢
        rw [Dict.get?_set] at hget ⊢
        split at hget
        · cases hget
          rename_i hid
          exact ⟨s, if_pos hid, hnames, rfl, by rw [hkept.root]⟩
        · rename_i hid
          rw [if_neg hid]
          exact hsound.leases leaseId record hget
      · intro lease hmem
        exact mem_cons_of_mem _ (hkept.granted ▸ hmem)
      · intro lease hlease
        cases hlease
        exact mem_cons_self

theorem onward_heartbeat (env : WorkspaceEnv) (h : w.Sound) (lease : EnvironmentLease) :
    Onward w (w.heartbeat env lease).2 ∧
      ∀ renewed, (w.heartbeat env lease).1 = .ok renewed → renewed ∈ (w.heartbeat env lease).2.granted := by
  unfold heartbeat
  split
  · exact ⟨Onward.refl h, nofun⟩
  · rename_i workspace hworkspace
    obtain ⟨record, hrecord, hid, -, rfl⟩ := w.leaseWorkspace_eq_ok env hworkspace
    obtain ⟨s, hissued, hnames, henvironment, hdirectory⟩ := h.leases _ _ hrecord
    refine ⟨⟨⟨h.root, h.links, ?_⟩, rfl, rfl, fun _ hmem => mem_cons_of_mem _ hmem, fun _ hp => hp⟩, ?_⟩
    · intro leaseId record' hget
      dsimp only at hget ⊢
      rcases Dict.get?_set_eq_some.mp hget with ⟨hsame, rfl⟩ | ⟨-, hget⟩
      · subst hsame
        exact ⟨s, hissued, hnames, hid ▸ henvironment, hdirectory⟩
      · exact h.leases leaseId record' hget
    · intro renewed hrenewed
      cases hrenewed
      exact mem_cons_self

theorem onward_shutdown (h : w.Sound) (lease : EnvironmentLease) : Onward w (w.shutdown lease).2 := by
  refine ⟨⟨h.root, h.links, ?_⟩, rfl, rfl, fun _ hmem => hmem, fun _ hp => hp⟩
  intro leaseId record hget
  simp only [shutdown, Dict.get?_erase] at hget ⊢
  split at hget
  · cases hget
  · rename_i hid
    rw [if_neg hid]
    exact h.leases leaseId record hget

/-- **Whose lease is accepted**: one the transport issued for that environment and has not taken back. -/
theorem Sound.issued (h : w.Sound) {lease : EnvironmentLease}
    (hworkspace : w.leaseWorkspace env lease = .ok workspace) :
    ∃ spec, w.issued.get? lease.leaseId = some spec ∧ spec.NamesWorkspace ∧ spec.environmentId = lease.environmentId ∧
      env.now < lease.expiresAt ∧ workspace = workspaceOf w.root spec.toSpecFields := by
  obtain ⟨record, hrecord, hid, hlive, rfl⟩ := w.leaseWorkspace_eq_ok env hworkspace
  obtain ⟨spec, hissued, hnames, henvironment, hdirectory⟩ := h.leases _ _ hrecord
  exact ⟨spec, hissued, hnames, henvironment.symm.trans hid, hlive, hdirectory⟩

end Workspaces

/-! ### The system -/

/-- The transport with its files, the executors by name, and what the last step raised. -/
structure WorkspaceWorld where
  station : Workspaces
  executors : Dict String BoundedEnvironmentExecutor
  raised : Option EnvironmentFailure

/-- A call of an executor, with the times of the executor's clock. -/
inductive ExecutorCall
  | prepare (startedAt now : ℚ)
  | heartbeat (now later : ℚ)
  | execute (now : ℚ) (request : EnvironmentRequest)
  | shutdown (reason : String)
  | revoke (reason : String)

/-- A step: a direct call of the transport, a call of an executor, or a change of the files by someone else. -/
inductive WorkspaceStep
  | prepare (spec : EnvironmentSpec)
  | heartbeat (lease : EnvironmentLease)
  | execute (lease : EnvironmentLease) (request : EnvironmentRequest)
  | shutdown (lease : EnvironmentLease)
  | create (name : String) (spec : EnvironmentSpec) (hasTransport : Bool)
  | drive (name : String) (call : ExecutorCall)
  | outside (files : FileTree)

/-- What a call raised. -/
def raisedBy {α : Type} : Except EnvironmentFailure α → Option EnvironmentFailure
  | .error failure => some failure
  | .ok _ => none

@[simp] theorem raisedBy_eq_none {α : Type} {r : Except EnvironmentFailure α} :
    raisedBy r = none ↔ ∃ a, r = .ok a := by
  cases r with
  | error e | ok a => simp [raisedBy]

def ExecutorCall.run (env : WorkspaceEnv) (e : BoundedEnvironmentExecutor) (w : Workspaces) :
    ExecutorCall → Option EnvironmentFailure × BoundedEnvironmentExecutor × Workspaces
  | prepare startedAt now =>
    let r := e.prepare (localTransport env) startedAt now w
    (raisedBy r.1, r.2)
  | heartbeat now later =>
    let r := e.heartbeat (localTransport env) now later w
    (raisedBy r.1, r.2)
  | execute now request =>
    let r := e.execute (localTransport env) now request w
    (raisedBy r.1, r.2)
  | shutdown reason =>
    let r := e.shutdown (localTransport env) reason w
    (raisedBy r.1, r.2)
  | revoke reason =>
    let r := e.revoke (localTransport env) reason w
    (raisedBy r.1, r.2)

namespace WorkspaceWorld

/-- After a direct call of the transport. -/
def after {α : Type} (w : WorkspaceWorld) (r : Except EnvironmentFailure α × Workspaces) : WorkspaceWorld :=
  { w with station := r.2, raised := raisedBy r.1 }

/-- One step; the files touched are those of this step.  An executor that was never made cannot be driven. -/
def next (w : WorkspaceWorld) (step : WorkspaceEnv × WorkspaceStep) : WorkspaceWorld :=
  let station := { w.station with touched := [] }
  match step.2 with
  | .prepare spec => w.after (station.prepare step.1 spec)
  | .heartbeat lease => w.after (station.heartbeat step.1 lease)
  | .execute lease request => w.after (station.execute step.1 lease request)
  | .shutdown lease => w.after (station.shutdown lease)
  | .create name spec hasTransport =>
    match BoundedEnvironmentExecutor.new spec hasTransport with
    | .error failure => ⟨station, w.executors, some failure⟩
    | .ok e => ⟨station, w.executors.set name e, none⟩
  | .drive name call =>
    match w.executors.get? name with
    | none => ⟨station, w.executors, some .assertion⟩
    | some e =>
      let r := call.run step.1 e station
      ⟨r.2.2, w.executors.set name r.2.1, r.1⟩
  | .outside files => ⟨{ station with files := files }, w.executors, none⟩

def presented (w : WorkspaceWorld) : WorkspaceStep → Option EnvironmentLease
  | .heartbeat lease | .execute lease _ | .shutdown lease => some lease
  | .drive name _ => (w.executors.get? name).bind BoundedEnvironmentExecutor.lease
  | _ => none

/-- The paths a step is bound to: those of the executor it drives. -/
def allowedPaths (w : WorkspaceWorld) : WorkspaceStep → List String
  | .drive name _ => ((w.executors.get? name).map fun e => e.spec.allowedPaths).getD []
  | _ => []

end WorkspaceWorld

def WorkspaceStep.request? : WorkspaceStep → Option EnvironmentRequest
  | .execute _ request | .drive _ (.execute _ request) => some request
  | _ => none

/-- Whether a step is an operation under a lease. -/
def WorkspaceStep.isOperation : WorkspaceStep → Bool
  | .heartbeat _ | .execute .. | .drive _ (.heartbeat ..) | .drive _ (.execute ..) => true
  | _ => false

/-- A write names a file: its path has a component. -/
def EnvironmentRequest.NamesFile (request : EnvironmentRequest) : Prop :=
  request.operation = .workspaceWrite → Workspaces.pathText (request.payload.get? "path") ≠ "" →
    parts (Workspaces.pathText (request.payload.get? "path")) ≠ []

/-- What is asked of the specifications, the requests and the files of a run. -/
def Admissible (w : WorkspaceWorld) (step : WorkspaceEnv × WorkspaceStep) : Prop :=
  w.station.FreshNames step.1 ∧
    match step.2 with
    | .prepare spec | .create _ spec _ => spec.NamesWorkspace
    | .execute _ request | .drive _ (.execute _ request) => request.NamesFile
    | .outside files => NoHiddenLinks w.station.root files
    | _ => True

/-- **What a step may do.**  A file it touches lies in the directory of the environment that its lease was issued for,
and below a path its executor is bound to, or is the temporary file beside such a path that is written itself; an
operation returns for a lease issued for its environment and not taken back, until the expiry the lease presents; and an
executor presents no lease but one that the transport handed out. -/
structure Confined (w : WorkspaceWorld) (step : WorkspaceEnv × WorkspaceStep) : Prop where
  files : ∀ p ∈ (w.next step).station.touched, ∃ lease request spec, w.presented step.2 = some lease ∧
    step.2.request? = some request ∧ w.station.issued.get? lease.leaseId = some spec ∧
    workspaceOf w.station.root spec.toSpecFields <+: p ∧
    (w.allowedPaths step.2 ≠ [] → ∃ allowed ∈ w.allowedPaths step.2,
      workspaceOf w.station.root spec.toSpecFields ++ parts allowed <+: p ∨
        (Workspaces.fileOf (workspaceOf w.station.root spec.toSpecFields) request
            = workspaceOf w.station.root spec.toSpecFields ++ parts allowed ∧
          p = Workspaces.temporaryOf step.1.fileToken
            (workspaceOf w.station.root spec.toSpecFields ++ parts allowed)))
  leases : step.2.isOperation = true → (w.next step).raised = none → ∀ lease, w.presented step.2 = some lease →
    ∃ spec, w.station.issued.get? lease.leaseId = some spec ∧ spec.environmentId = lease.environmentId ∧
      step.1.now < lease.expiresAt
  answered : ∀ request, step.2.request? = some request → (w.next step).raised = none →
    ∃ lease, w.presented step.2 = some lease
  genuine : ∀ name call lease, step.2 = .drive name call → w.presented step.2 = some lease → lease ∈ w.station.granted

/-! ### The invariant and the step -/

/-- The transport knows no lease but its own, and the executors have no other. -/
structure WorkspaceWorld.Sound (w : WorkspaceWorld) : Prop where
  station : w.station.Sound
  executors : ∀ name e, w.executors.get? name = some e → e.spec.NamesWorkspace ∧
    ∀ lease, e.lease = some lease → lease ∈ w.station.granted ∧ e.spec.kind ≠ .none

namespace Workspaces

variable {w : Workspaces} {env : WorkspaceEnv}

theorem Sound.untouched (h : w.Sound) : ({ w with touched := [] } : Workspaces).Sound := ⟨h.root, h.links, h.leases⟩

/-- **Where an operation goes**: into the directory of the environment its lease was issued for. -/
theorem confined_execute (env : WorkspaceEnv) (h : w.Sound) (hfresh : w.FreshNames env) (hclean : w.touched = [])
    (lease : EnvironmentLease) (request : EnvironmentRequest) :
    Kept w (w.execute env lease request).2 ∧ ∀ p ∈ (w.execute env lease request).2.touched,
      ∃ spec, w.issued.get? lease.leaseId = some spec ∧ Touches env (workspaceOf w.root spec.toSpecFields) request p := by
  have hsolid : ∀ workspace, w.leaseWorkspace env lease = .ok workspace → w.Solid workspace := by
    intro workspace hworkspace
    obtain ⟨spec, -, hnames, -, -, rfl⟩ := h.issued hworkspace
    exact h.solid hnames
  obtain ⟨hkept, htouched⟩ := w.execute_spec env lease request hsolid hfresh
  refine ⟨hkept, fun p hp => ?_⟩
  rcases htouched p hp with hp | ⟨workspace, hworkspace, hp⟩
  · rw [hclean] at hp
    cases hp
  · obtain ⟨spec, hissued, -, -, -, rfl⟩ := h.issued hworkspace
    exact ⟨spec, hissued, hp⟩

theorem prefix_temporaryOf {relative : List String} (hne : relative ≠ []) (token : String) :
    workspace <+: temporaryOf token (workspace ++ relative) := by
  rw [temporaryOf, dropLast_append_of_ne_nil hne, append_assoc]
  exact prefix_append _ _

theorem Touches.inside {request : EnvironmentRequest} {p : Path} (h : Touches env workspace request p)
    (hnamed : request.NamesFile) : workspace <+: p := by
  obtain ⟨hpath, ⟨-, rfl⟩ | ⟨hwrite, rfl | rfl⟩⟩ := h
  · exact prefix_append _ _
  · exact prefix_temporaryOf (hnamed hwrite hpath) _
  · exact prefix_append _ _

/-- The temporary file beside a file strictly below a directory is below it too. -/
theorem prefix_temporaryOf_of_below {dir target : Path} (hpre : dir <+: target) (hne : target ≠ dir) (token : String) :
    dir <+: temporaryOf token target := by
  obtain ⟨relative, rfl⟩ := hpre
  apply prefix_temporaryOf
  intro hnil
  rw [hnil, append_nil] at hne
  exact hne rfl

theorem Touches.allowed {request : EnvironmentRequest} {p : Path} {spec : SpecFields}
    (h : Touches env workspace request p)
    (hpolicy : BoundedEnvironmentExecutor.validateRequestPolicy spec request = .ok ()) (hne : spec.allowedPaths ≠ []) :
    ∃ allowed ∈ spec.allowedPaths, workspace ++ parts allowed <+: p ∨
      (fileOf workspace request = workspace ++ parts allowed ∧
        p = temporaryOf env.fileToken (workspace ++ parts allowed)) := by
  obtain ⟨hpath, htouched⟩ := h
  have hoperation : request.operation = .workspaceRead ∨ request.operation = .workspaceWrite :=
    htouched.imp And.left And.left
  have hplace : p = temporaryOf env.fileToken (fileOf workspace request) ∨ p = fileOf workspace request := by
    rcases htouched with ⟨-, hp⟩ | ⟨-, hp⟩
    · exact .inr hp
    · exact hp
  cases hraw : request.payload.get? "path" with
  | none =>
    rw [hraw] at hpath
    exact absurd rfl hpath
  | some raw =>
    obtain ⟨allowed, hmem, hpre⟩ :=
      BoundedEnvironmentExecutor.allowed_of_policy hpolicy hoperation hraw hne
    refine ⟨allowed, hmem, ?_⟩
    rw [hraw] at hpath
    -- a path that is not falsy is read the same way by the policy and by the transport
    have htext : pathText (some raw) = raw.str := by
      by_contra hfalsy
      refine hpath ?_
      simp only [pathText] at hfalsy ⊢
      split
      · rename_i htrue
        exact absurd (if_pos htrue) hfalsy
      · rfl
    have hbelow : workspace ++ parts allowed <+: fileOf workspace request := by
      rw [fileOf, hraw, htext]
      exact (prefix_append_right_inj workspace).mpr hpre
    rcases hplace with rfl | rfl
    · by_cases hsame : fileOf workspace request = workspace ++ parts allowed
      · exact .inr ⟨hsame, by rw [hsame]⟩
      · exact .inl (prefix_temporaryOf_of_below hbelow hsame _)
    · exact .inl hbelow

end Workspaces

namespace WorkspaceWorld

open BoundedEnvironmentExecutor Workspaces

variable {w : WorkspaceWorld} {env : WorkspaceEnv}

theorem sound_after {α : Type} (h : w.Sound) {r : Except EnvironmentFailure α × Workspaces} (hsound : r.2.Sound)
    (hgranted : ∀ lease ∈ w.station.granted, lease ∈ r.2.granted) : (w.after r).Sound where
  station := hsound
  executors name e hget := by
    obtain ⟨hnames, hleases⟩ := h.executors name e hget
    exact ⟨hnames, fun lease hlease => ⟨hgranted lease (hleases lease hlease).1, (hleases lease hlease).2⟩⟩

variable {name : String} {e : BoundedEnvironmentExecutor} {station : Workspaces}

/-- The executor that was called keeps its specification and its lease, or has one that the transport handed out. -/
theorem sound_driven (h : w.Sound) {e' : BoundedEnvironmentExecutor} {raised : Option EnvironmentFailure}
    (hget : w.executors.get? name = some e) (hsound : station.Sound)
    (hgranted : ∀ lease ∈ w.station.granted, lease ∈ station.granted) (hspec : e'.spec = e.spec)
    (hlease : e'.lease = e.lease ∨ ∃ lease ∈ station.granted, e.spec.kind ≠ .none ∧ e'.lease = some lease) :
    (WorkspaceWorld.mk station (w.executors.set name e') raised).Sound where
  station := hsound
  executors name' f hf := by
    dsimp only at hf
    rcases Dict.get?_set_eq_some.mp hf with ⟨-, rfl⟩ | ⟨-, hf⟩
    · obtain ⟨hnames, hleases⟩ := h.executors name e hget
      refine ⟨hspec ▸ hnames, fun lease hl => hspec ▸ ?_⟩
      rcases hlease with hsame | ⟨lease', hmem, hkind, hnew⟩
      · exact ⟨hgranted lease (hleases lease (hsame ▸ hl)).1, (hleases lease (hsame ▸ hl)).2⟩
      · cases hnew.symm.trans hl
        exact ⟨hmem, hkind⟩
    · obtain ⟨hnames, hleases⟩ := h.executors name' f hf
      exact ⟨hnames, fun lease hl => ⟨hgranted lease (hleases lease hl).1, (hleases lease hl).2⟩⟩

/-- The transport at the start of a step. -/
def cleared (w : WorkspaceWorld) : Workspaces := { w.station with touched := [] }

theorem Sound.cleared (h : w.Sound) : w.cleared.Sound := h.station.untouched

theorem onward_same (h : w.Sound) (hsame : station = w.cleared) : Onward w.cleared station := by
  rw [hsame]
  exact Onward.refl h.cleared

theorem onward_giveBack (h : w.Sound) (e : BoundedEnvironmentExecutor)
    (hback : station = w.cleared ∨ station = (e.giveBack (localTransport env) w.cleared).2) :
    Onward w.cleared station := by
  rcases hback with hsame | hback
  · exact onward_same h hsame
  · rw [hback]
    rcases e.giveBack_spec (localTransport env) w.cleared with hsame | ⟨lease, -, hshut⟩
    · exact onward_same h hsame
    · rw [hshut]
      exact onward_shutdown h.cleared lease

/-- **A call of an executor keeps the invariant.** -/
theorem sound_drive (h : w.Sound) (hfresh : w.station.FreshNames env)
    (hget : w.executors.get? name = some e) (call : ExecutorCall) :
    (WorkspaceWorld.mk (call.run env e w.cleared).2.2 (w.executors.set name (call.run env e w.cleared).2.1)
      (call.run env e w.cleared).1).Sound := by
  obtain ⟨hnames, hleases⟩ := h.executors name e hget
  cases call with
  | prepare startedAt now =>
    obtain ⟨hspec, ⟨hstation, hlease⟩ | ⟨hstation, hlease⟩⟩ :=
      e.prepare_spec (localTransport env) startedAt now w.cleared
    · have honward := onward_same h hstation
      exact sound_driven h hget honward.sound honward.granted hspec (.inl hlease)
    · obtain ⟨honward, hgrant⟩ := onward_prepare env h.cleared hnames
      rw [← show (e.prepare (localTransport env) startedAt now w.cleared).2.2 = (w.cleared.prepare env e.spec).2
        from hstation] at honward hgrant
      refine sound_driven h hget honward.sound honward.granted hspec (hlease.imp_right ?_)
      rintro ⟨granted, hok, hkind, hlease⟩
      exact ⟨granted, hgrant _ hok, hkind, hlease⟩
  | heartbeat now later =>
    obtain ⟨hspec, ⟨hstation, hlease, -⟩ | ⟨held, hhas, hstation, hlease⟩⟩ :=
      e.heartbeat_spec (localTransport env) now later w.cleared
    · have honward := onward_same h hstation
      exact sound_driven h hget honward.sound honward.granted hspec (.inl hlease)
    · obtain ⟨honward, hgrant⟩ := onward_heartbeat env h.cleared held
      rw [← show (e.heartbeat (localTransport env) now later w.cleared).2.2 = (w.cleared.heartbeat env held).2
        from hstation] at honward hgrant
      refine sound_driven h hget honward.sound honward.granted hspec (hlease.imp And.left ?_)
      rintro ⟨renewed, hok, hlease⟩
      exact ⟨renewed, hgrant _ hok, (hleases held hhas).2, hlease⟩
  | execute now request =>
    obtain ⟨hspec, hlease, ⟨-, hstation⟩ | ⟨held, -, -, -, hstation⟩⟩ :=
      e.execute_spec (localTransport env) now request w.cleared
    · have honward := onward_same h hstation
      exact sound_driven h hget honward.sound honward.granted hspec (.inl hlease)
    · obtain ⟨hkept, -⟩ := confined_execute env h.cleared hfresh rfl held request
      rw [← show (e.execute (localTransport env) now request w.cleared).2.2 = (w.cleared.execute env held request).2
        from hstation] at hkept
      exact sound_driven h hget (h.cleared.kept hkept) (fun lease hmem => hkept.granted.symm ▸ hmem) hspec (.inl hlease)
  | shutdown reason =>
    obtain ⟨hspec, hlease, hback⟩ := e.shutdown_spec (localTransport env) reason w.cleared
    have honward := onward_giveBack h e hback
    exact sound_driven h hget honward.sound honward.granted hspec (.inl hlease)
  | revoke reason =>
    obtain ⟨hspec, hlease, hback⟩ := e.revoke_spec (localTransport env) reason w.cleared
    have honward := onward_giveBack h e hback
    exact sound_driven h hget honward.sound honward.granted hspec (.inl hlease)

variable {step : WorkspaceStep}

/-- **Every step keeps the invariant.** -/
theorem sound_next (h : w.Sound) (hadm : Admissible w (env, step)) : (w.next (env, step)).Sound := by
  obtain ⟨hfresh, hstep⟩ := hadm
  cases step with
  | prepare spec =>
    obtain ⟨honward, -⟩ := onward_prepare env h.cleared hstep
    exact sound_after h honward.sound honward.granted
  | heartbeat lease =>
    obtain ⟨honward, -⟩ := onward_heartbeat env h.cleared lease
    exact sound_after h honward.sound honward.granted
  | execute lease request =>
    obtain ⟨hkept, -⟩ := confined_execute env h.cleared hfresh rfl lease request
    exact sound_after h (h.cleared.kept hkept) fun _ hmem => hkept.granted.symm ▸ hmem
  | shutdown lease =>
    have honward := onward_shutdown h.cleared lease
    exact sound_after h honward.sound honward.granted
  | create name spec hasTransport =>
    simp only [next]
    split
    · exact ⟨h.cleared, h.executors⟩
    · rename_i e hnew
      have he : e = { spec := spec } := by
        simp only [BoundedEnvironmentExecutor.new, ite_error_eq_ok_iff] at hnew
        obtain ⟨-, -, hnew⟩ := hnew
        cases hnew
        rfl
      refine ⟨h.cleared, fun name' f hf => ?_⟩
      dsimp only at hf
      rcases Dict.get?_set_eq_some.mp hf with ⟨-, rfl⟩ | ⟨-, hf⟩
      · rw [he]
        exact ⟨hstep, nofun⟩
      · exact h.executors name' f hf
  | drive name call =>
    simp only [next]
    split
    · exact ⟨h.cleared, h.executors⟩
    · rename_i e hget
      exact sound_drive h hfresh hget call
  | outside files =>
    exact ⟨⟨h.station.root, hstep, h.station.leases⟩, h.executors⟩

theorem current_of_accepted (h : w.Sound) {lease : EnvironmentLease}
    (haccepted : ∃ workspace, w.cleared.leaseWorkspace env lease = .ok workspace) :
    ∃ spec, w.station.issued.get? lease.leaseId = some spec ∧ spec.environmentId = lease.environmentId ∧
      env.now < lease.expiresAt := by
  obtain ⟨workspace, hworkspace⟩ := haccepted
  obtain ⟨spec, hissued, -, henvironment, hlive, -⟩ := h.cleared.issued hworkspace
  exact ⟨spec, hissued, henvironment, hlive⟩

theorem not_mem_of_untouched {p : Path} (huntouched : (w.next (env, step)).station.touched = []) :
    p ∉ (w.next (env, step)).station.touched := by
  rw [huntouched]
  exact not_mem_nil

theorem confined_of_untouched (huntouched : (w.next (env, step)).station.touched = [])
    (hoperation : step.isOperation = false)
    (hgenuine : ∀ name call lease, step = .drive name call → w.presented step = some lease →
      lease ∈ w.station.granted) : Confined w (env, step) where
  files p hp := absurd hp (not_mem_of_untouched huntouched)
  leases hop := nomatch hoperation.symm.trans hop
  answered request hrequest := by
    cases step with
    | execute lease request => cases hoperation
    | drive name call =>
      cases call with
      | execute now request => cases hoperation
      | _ => cases hrequest
    | _ => cases hrequest
  genuine := hgenuine

/-- **Every call of an executor is confined.** -/
theorem confined_drive (h : w.Sound) (hfresh : w.station.FreshNames env)
    (hget : w.executors.get? name = some e) (call : ExecutorCall)
    (hnamed : ∀ request, (WorkspaceStep.drive name call).request? = some request → request.NamesFile) :
    Confined w (env, .drive name call) := by
  obtain ⟨hnames, hleases⟩ := h.executors name e hget
  have hpresented : w.presented (.drive name call) = e.lease := by simp [presented, hget]
  have hallowed : w.allowedPaths (.drive name call) = e.spec.allowedPaths := by simp [allowedPaths, hget]
  have hgenuine : ∀ name' call' lease, WorkspaceStep.drive name call = .drive name' call' →
      w.presented (.drive name call) = some lease → lease ∈ w.station.granted :=
    fun _ _ lease _ hl => (hleases lease (hpresented ▸ hl)).1
  have hnext : w.next (env, .drive name call) = ⟨(call.run env e w.cleared).2.2,
      w.executors.set name (call.run env e w.cleared).2.1, (call.run env e w.cleared).1⟩ := by
    simp only [next, hget]
    rfl
  cases call with
  | prepare startedAt now =>
    refine confined_of_untouched ?_ rfl hgenuine
    rw [hnext]
    obtain ⟨-, ⟨hstation, -⟩ | ⟨hstation, -⟩⟩ := e.prepare_spec (localTransport env) startedAt now w.cleared
    · exact (onward_same h hstation).touched
    · exact (congrArg Workspaces.touched hstation).trans (onward_prepare env h.cleared hnames).1.touched
  | shutdown reason =>
    refine confined_of_untouched ?_ rfl hgenuine
    rw [hnext]
    obtain ⟨-, -, hback⟩ := e.shutdown_spec (localTransport env) reason w.cleared
    exact (onward_giveBack h e hback).touched
  | revoke reason =>
    refine confined_of_untouched ?_ rfl hgenuine
    rw [hnext]
    obtain ⟨-, -, hback⟩ := e.revoke_spec (localTransport env) reason w.cleared
    exact (onward_giveBack h e hback).touched
  | heartbeat now later =>
    have hspec := e.heartbeat_spec (localTransport env) now later w.cleared
    refine ⟨fun p hp => absurd hp (not_mem_of_untouched ?_), ?_, by intros; contradiction, hgenuine⟩
    · rw [hnext]
      obtain ⟨-, ⟨hstation, -⟩ | ⟨held, -, hstation, -⟩⟩ := hspec
      · exact (onward_same h hstation).touched
      · exact (congrArg Workspaces.touched hstation).trans (onward_heartbeat env h.cleared held).1.touched
    · intro _ hraised lease hlease
      rw [hpresented] at hlease
      rw [hnext] at hraised
      obtain ⟨answer, hanswer⟩ := raisedBy_eq_none.mp hraised
      obtain ⟨-, ⟨-, -, ⟨failure, hfailed⟩ | hkind⟩ | ⟨held, hheld, -, ⟨-, failure, hfailed⟩ | ⟨renewed, hok, -⟩⟩⟩ := hspec
      · cases hfailed.symm.trans hanswer
      · exact absurd hkind (hleases lease hlease).2
      · cases hfailed.symm.trans hanswer
      · cases hlease.symm.trans hheld
        exact current_of_accepted h (w.cleared.heartbeat_eq_ok env hok)
  | execute now request =>
    obtain ⟨-, -, ⟨⟨failure, hfailed⟩, hstation⟩ | ⟨held, hheld, hpolicy, hanswered, hstation⟩⟩ :=
      e.execute_spec (localTransport env) now request w.cleared
    · have hfailed' : (w.next (env, .drive name (.execute now request))).raised = some failure := by
        rw [hnext]
        exact congrArg raisedBy hfailed
      refine ⟨fun p hp => absurd hp (not_mem_of_untouched ?_), fun _ hraised => (nomatch hfailed'.symm.trans hraised),
        fun _ _ hraised => (nomatch hfailed'.symm.trans hraised), hgenuine⟩
      rw [hnext]
      exact (onward_same h hstation).touched
    · obtain ⟨-, htouched⟩ := confined_execute env h.cleared hfresh rfl held request
      refine ⟨?_, ?_, fun _ _ _ => ⟨held, hpresented.trans hheld⟩, hgenuine⟩
      · intro p hp
        rw [hnext] at hp
        obtain ⟨spec, hissued, htouches⟩ := htouched p ((congrArg Workspaces.touched hstation) ▸ hp)
        refine ⟨held, request, spec, hpresented.trans hheld, rfl, hissued, htouches.inside (hnamed request rfl), ?_⟩
        rw [hallowed]
        exact htouches.allowed hpolicy
      · intro _ hraised lease hlease
        rw [hpresented] at hlease
        cases hlease.symm.trans hheld
        rw [hnext] at hraised
        obtain ⟨answer, hanswer⟩ := raisedBy_eq_none.mp hraised
        exact current_of_accepted h (w.cleared.execute_eq_ok env (hanswered.symm.trans hanswer))

/-- **Every step is confined.** -/
theorem confined_next (h : w.Sound) (hadm : Admissible w (env, step)) : Confined w (env, step) := by
  obtain ⟨hfresh, hstep⟩ := hadm
  cases step with
  | prepare spec =>
    refine confined_of_untouched ?_ rfl (by intros; contradiction)
    exact (onward_prepare env h.cleared hstep).1.touched
  | heartbeat lease =>
    refine ⟨fun p hp => absurd hp (not_mem_of_untouched (onward_heartbeat env h.cleared lease).1.touched), ?_,
      by intros; contradiction, by intros; contradiction⟩
    intro _ hraised lease' hlease
    cases hlease
    obtain ⟨renewed, hok⟩ := raisedBy_eq_none.mp hraised
    exact current_of_accepted h (w.cleared.heartbeat_eq_ok env hok)
  | execute lease request =>
    obtain ⟨-, htouched⟩ := confined_execute env h.cleared hfresh rfl lease request
    refine ⟨?_, ?_, fun _ _ _ => ⟨lease, rfl⟩, by intros; contradiction⟩
    · intro p hp
      obtain ⟨spec, hissued, htouches⟩ := htouched p hp
      exact ⟨lease, request, spec, rfl, rfl, hissued, htouches.inside hstep, fun hne => absurd rfl hne⟩
    · intro _ hraised lease' hlease
      cases hlease
      obtain ⟨answer, hok⟩ := raisedBy_eq_none.mp hraised
      exact current_of_accepted h (w.cleared.execute_eq_ok env hok)
  | shutdown lease => exact confined_of_untouched rfl rfl (by intros; contradiction)
  | create name spec hasTransport =>
    refine confined_of_untouched ?_ rfl (by intros; contradiction)
    simp only [next]
    split <;> rfl
  | drive name call =>
    cases hget : w.executors.get? name with
    | none =>
      have hpresented : w.presented (.drive name call) = none := by simp [presented, hget]
      have hnext : w.next (env, .drive name call) = ⟨w.cleared, w.executors, some .assertion⟩ := by
        simp only [next, hget]
        rfl
      refine ⟨fun p hp => absurd hp (not_mem_of_untouched (by rw [hnext]; rfl)),
        fun _ _ lease hlease => (nomatch hpresented.symm.trans hlease), fun _ _ hraised => ?_,
        fun _ _ lease _ hlease => nomatch hpresented.symm.trans hlease⟩
      rw [hnext] at hraised
      cases hraised
    | some e =>
      refine confined_drive h hfresh hget call ?_
      cases call with
      | execute now request =>
        intro request' hrequest
        cases hrequest
        exact hstep
      | _ => intros; contradiction
  | outside files => exact confined_of_untouched rfl rfl (by intros; contradiction)

/-- A transport that has just been made, over these files. -/
def start (root : Path) (artifactStore : Option ArtifactSink) (principalId : String) (maxFileBytes : ℕ)
    (allowMesh : Bool) (files : FileTree) : WorkspaceWorld where
  station :=
    { root := root
      artifactStore := artifactStore
      principalId := principalId
      maxFileBytes := maxFileBytes
      allowMesh := allowMesh
      leases := Dict.empty
      idempotency := Dict.empty
      files := files
      touched := []
      issued := Dict.empty
      granted := [] }
  executors := Dict.empty
  raised := none

end WorkspaceWorld

/-- **Workspaces are confined and apart**: along every run, each step is confined, and whenever the directories of two
environments are made, neither contains the other. -/
theorem workspaces_confined {root : Path} {files : FileTree} (artifactStore : Option ArtifactSink) (principalId : String)
    (maxFileBytes : ℕ) (allowMesh : Bool) (hroot : ".." ∉ root) (hlinks : NoHiddenLinks root files)
    {steps : List (WorkspaceEnv × WorkspaceStep)}
    (hsteps : Run.Along WorkspaceWorld.next Admissible
      (WorkspaceWorld.start root artifactStore principalId maxFileBytes allowMesh files) steps) :
    Run.Along WorkspaceWorld.next Confined
        (WorkspaceWorld.start root artifactStore principalId maxFileBytes allowMesh files) steps ∧
      let w := Run.exec WorkspaceWorld.next
        (WorkspaceWorld.start root artifactStore principalId maxFileBytes allowMesh files) steps
      ∀ (s s' : EnvironmentSpec) (d d' : Path) (v v' : Workspaces), s.NamesWorkspace → s'.NamesWorkspace →
        (s.sessionId, s.environmentId) ≠ (s'.sessionId, s'.environmentId) →
        w.station.workspacePath s.toSpecFields = .ok (d, v) → w.station.workspacePath s'.toSpecFields = .ok (d', v') →
        Apart d d' := by
  have hstart : (WorkspaceWorld.start root artifactStore principalId maxFileBytes allowMesh files).Sound :=
    ⟨⟨hroot, hlinks, fun _ _ hget => nomatch hget⟩, fun _ _ hget => nomatch hget⟩
  have hstep : ∀ w step, WorkspaceWorld.Sound w → Admissible w step → Confined w step ∧ (w.next step).Sound :=
    fun w step hw hadm => ⟨WorkspaceWorld.confined_next hw hadm, WorkspaceWorld.sound_next hw hadm⟩
  refine ⟨Run.along_of_along WorkspaceWorld.Sound hstep hstart hsteps, ?_⟩
  intro w s s' d d' v v' hnames hnames' hne hd hd'
  have hw : w.Sound := Run.exec_of_along WorkspaceWorld.Sound (fun w i hi hok => (hstep w i hi hok).2) hstart hsteps
  exact Workspaces.workspacePath_apart hw.station hnames hnames' hne hd hd'

/-! ### A run, and what is not promised -/

/-- A self-hosted environment bound to its outputs. -/
def localSpec (sessionId environmentId : String) : SpecFields :=
  { environmentId := environmentId
    sessionId := sessionId
    kind := .selfHosted
    allowedOperations := [.workspaceRead, .workspaceWrite]
    allowedPaths := ["outputs"] }

/-- The clock at `now`, with fixed tokens. -/
def envAt (now : ℚ) : WorkspaceEnv := { now := now, later := now, leaseToken := "l", fileToken := "f" }

/-- A lease of environment `e`, until `expiresAt`. -/
def leaseUntil (expiresAt : ℚ) : EnvironmentLease := ⟨"localws_l", "e", 0, expiresAt, 1⟩

/-- A write of a text to a path, with overwriting. -/
def writeTo (path : String) : EnvironmentRequest :=
  { requestId := "r"
    operation := .workspaceWrite
    payload := ((Dict.empty.set "path" (.text path)).set "content" (.text "x")).set "overwrite" (.other "True" "true" true)
    idempotencyKey := some "k" }

def namedSpec : EnvironmentSpec := ⟨localSpec "s" "e", by decide⟩

def dotsSpec : EnvironmentSpec := ⟨localSpec ".." "sessions", by decide⟩

def emptyStart : WorkspaceWorld := .start ["srv"] none "local" 8388608 false fun _ => none

/-- An environment is prepared and a file of it is written under its lease. -/
theorem workspaces_confined_sample :
    let steps := [(envAt 0, .prepare namedSpec), (envAt 1, .execute (leaseUntil 300) (writeTo "outputs/a"))]
    Run.Along WorkspaceWorld.next Confined emptyStart steps ∧
      (Run.exec WorkspaceWorld.next emptyStart steps).station.touched.head?
        = some ["srv", "sessions", "s", "e", "outputs", "a"] := by
  intro steps
  have hnames : namedSpec.NamesWorkspace := ⟨by decide, by decide⟩
  have hempty : NoHiddenLinks ["srv"] fun _ => none := nofun
  have hsound : emptyStart.station.Sound :=
    ⟨by decide, hempty, nofun⟩
  have hplain : (emptyStart.next (envAt 0, .prepare namedSpec)).station.FreshNames (envAt 1) := by
    intro target
    by_contra hlink
    have honward := (Workspaces.onward_prepare (envAt 0) hsound.untouched hnames).1
    exact nomatch honward.links _ ((Bool.not_eq_false _).mp hlink)
  have hnamed : (writeTo "outputs/a").NamesFile := fun _ _ => by decide
  have hsteps : Run.Along WorkspaceWorld.next Admissible emptyStart steps :=
    ⟨⟨fun _ => rfl, hnames⟩, ⟨hplain, hnamed⟩, trivial⟩
  exact ⟨(workspaces_confined none "local" 8388608 false (by decide) hempty hsteps).1, by decide⟩

/-- What the transport does not promise: the identifiers `..` and `sessions` make a directory that contains the others,
a write to a single dot puts its temporary file beside the workspace, a write to an allowed path puts it beside that
path, a direct call is bound to no path, and a lease presented with another expiry is accepted after its own. -/
theorem unpromised_confinement : ((emptyStart.station.workspacePath namedSpec.toSpecFields).toOption.map Prod.fst)
        = some ["srv", "sessions", "s", "e"] ∧
      ((emptyStart.station.workspacePath dotsSpec.toSpecFields).toOption.map Prod.fst) = some ["srv", "sessions"] ∧
      ["srv", "sessions"] <+: ["srv", "sessions", "s", "e"] ∧
      let prepared := emptyStart.next (envAt 0, .prepare namedSpec)
      (prepared.next (envAt 1, .execute (leaseUntil 300) (writeTo "."))).station.touched
        = [["srv", "sessions", "s", ".e.f.tmp"]] ∧
      ¬["srv", "sessions", "s", "e"] <+: ["srv", "sessions", "s", ".e.f.tmp"] ∧
      (Run.exec WorkspaceWorld.next emptyStart [(envAt 0, .create "x" namedSpec true),
        (envAt 0, .drive "x" (.prepare 0 0)), (envAt 1, .drive "x" (.execute 1 (writeTo "outputs")))]).station.touched
        = [["srv", "sessions", "s", "e", "outputs"], ["srv", "sessions", "s", "e", ".outputs.f.tmp"]] ∧
      ¬["srv", "sessions", "s", "e", "outputs"] <+: ["srv", "sessions", "s", "e", ".outputs.f.tmp"] ∧
      (prepared.next (envAt 1, .execute (leaseUntil 300) (writeTo "private"))).station.touched.head?
        = some ["srv", "sessions", "s", "e", "private"] ∧
      ¬["srv", "sessions", "s", "e", "outputs"] <+: ["srv", "sessions", "s", "e", "private"] ∧
      (prepared.next (envAt 500, .execute (leaseUntil 1000) (writeTo "private"))).raised = none := by
  decide +kernel

end ComputeMesh.Platform
