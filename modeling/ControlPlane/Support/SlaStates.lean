import ControlPlane.Base.Runs
import ControlPlane.Support.SupportNotes
import ControlPlane.System
import Mathlib.Tactic.SplitIfs

/-!
# How far the stored states lag

The state that is stored with a note is the one it had when it was last looked at (`SupportNote.Sound`), in every run.
So a breach may be stored too late and never too early: the metrics count too few breached notes, by those whose date
has passed since they were last looked at (`metrics_lag`).  A listing makes the states of what it lists those of the
moment.
-/

namespace ControlPlane

open Table Session Session.Proc Runs

/-- How a note of a status stands to its date. -/
def slaStateAt (status : String) (slaDueAt : Option Time) (now : Time) : SlaState :=
  if status = "resolved" then .resolved
  else
    match slaDueAt with
    | none => .unscheduled
    | some due => if due < now then .breached else if due ≤ now + hours 24 then .dueSoon else .onTrack

namespace SupportNote

variable (note : SupportNote)

/-- How the note stands to its date. -/
def stateAt (now : Time) : SlaState := slaStateAt note.status note.slaDueAt now

/-- Whether the note is open and has a date of which `p` holds. -/
def isDue (p : Time → Bool) : Bool := decide (note.status ≠ "resolved") && note.slaDueAt.any p

/-- The date has passed since the note was looked at. -/
def passedSince (now : Time) : Bool := note.isDue fun due => note.slaLastEvaluatedAt ≤ due && due < now

/-- The date was near when the note was looked at, and has passed since. -/
def nearPassedSince (now : Time) : Bool :=
  note.isDue fun due => note.slaLastEvaluatedAt ≤ due && due ≤ note.slaLastEvaluatedAt + hours 24 && due < now

/-- The date was far when the note was looked at, and is near. -/
def nearedSince (now : Time) : Bool :=
  note.isDue fun due => note.slaLastEvaluatedAt + hours 24 < due && now ≤ due && due ≤ now + hours 24

/-- What is stored with a note at a time. -/
structure Sound (now : Time) (note : SupportNote) : Prop where
  evaluated : note.slaLastEvaluatedAt ≤ now
  state : note.slaState = note.stateAt note.slaLastEvaluatedAt
  resolved : note.resolvedAt.isSome = true ↔ note.status = "resolved"
  resolvedBy : ∀ t ∈ note.resolvedAt, t ≤ now

variable {note} {now now' : Time}

theorem Sound.mono (h : note.Sound now) (hnow : now ≤ now') : note.Sound now' :=
  ⟨Nat.le_trans h.evaluated hnow, h.state, h.resolved, fun t ht => Nat.le_trans (h.resolvedBy t ht) hnow⟩

end SupportNote

/-- All notes are sound at a time. -/
def SoundNotes (now : Time) (notes : List SupportNote) : Prop := ∀ note ∈ notes, note.Sound now

/-! ### States -/

theorem computeSlaState_ok {status : String} {slaDueAt : Option RequestDate} {now : Time} {state : SlaState}
    (h : computeSlaState status slaDueAt now = .ok state) :
    state = slaStateAt status (slaDueAt.map RequestDate.instant) now := by
  unfold computeSlaState at h
  unfold slaStateAt
  split at h
  · rename_i hresolved
    cases h
    rw [if_pos hresolved]
  · rename_i hresolved
    rw [if_neg hresolved]
    cases slaDueAt with
    | none =>
      cases h
      rfl
    | some due =>
      dsimp only [Option.map_some] at h ⊢
      split_ifs at h ⊢ <;> cases h <;> rfl

theorem computeSlaState_ofRow (status : String) (slaDueAt : Option Time) (now : Time) :
    computeSlaState status (slaDueAt.map RequestDate.ofRow) now = .ok (slaStateAt status slaDueAt now) := by
  unfold computeSlaState slaStateAt
  split_ifs
  · rfl
  · cases slaDueAt with
    | none => rfl
    | some due =>
      dsimp only [Option.map_some, RequestDate.ofRow]
      split_ifs <;> first | rfl | contradiction

namespace SupportNote

/-- What listing makes of a note, which always succeeds. -/
def relisted (tenantId : Option Nat) (now : Time) (note : SupportNote) : SupportNote :=
  if note.isListed tenantId ∧ note.slaState ≠ note.stateAt now then
    { note with
      slaState := note.stateAt now
      slaLastEvaluatedAt := now }
  else note

theorem listed_eq (tenantId : Option Nat) (now : Time) (note : SupportNote) :
    note.listed tenantId now = .ok (note.relisted tenantId now) := by
  unfold listed relisted reevaluate
  rw [computeSlaState_ofRow]
  by_cases hlisted : note.isListed tenantId = true
  · by_cases hstate : note.slaState = note.stateAt now
    · rw [if_pos hlisted, if_neg fun hall => hall.2 hstate]
      exact congrArg Except.ok (if_neg (not_not.2 hstate))
    · rw [if_pos hlisted, if_pos ⟨hlisted, hstate⟩]
      exact congrArg Except.ok (if_pos hstate)
  · rw [if_neg hlisted, if_neg fun hall => hlisted hall.1]

theorem Sound.relisted {note : SupportNote} {now later : Time} (h : note.Sound later) (hnow : now ≤ later)
    (tenantId : Option Nat) : (note.relisted tenantId now).Sound later := by
  unfold SupportNote.relisted
  split
  · exact ⟨hnow, rfl, h.resolved, h.resolvedBy⟩
  · exact h

/-- A note that was listed has the state of the moment. -/
theorem relisted_state {note : SupportNote} {tenantId : Option Nat} (hlisted : note.isListed tenantId = true)
    (now : Time) : (note.relisted tenantId now).slaState = (note.relisted tenantId now).stateAt now := by
  unfold relisted
  split
  · rfl
  · rename_i hsame
    by_contra hne
    exact hsame ⟨hlisted, hne⟩

theorem relisted_isListed (note : SupportNote) (tenantId tenantId' : Option Nat) (now : Time) :
    (note.relisted tenantId now).isListed tenantId' = note.isListed tenantId' := by
  unfold relisted
  split <;> rfl

end SupportNote

theorem mapM_listed (tenantId : Option Nat) (now : Time) (notes : List SupportNote) :
    notes.mapM (SupportNote.listed tenantId now) = .ok (notes.map (SupportNote.relisted tenantId now)) := by
  rw [show SupportNote.listed tenantId now = fun note => pure (note.relisted tenantId now) from
    funext fun note => SupportNote.listed_eq tenantId now note]
  exact List.mapM_pure

/-! ### What the requests keep -/

section

variable (env : SupportEnv)

theorem SupportEnv.mem_flush {saved work : List SupportNote} {note : SupportNote} (h : note ∈ env.flush saved work) :
    ∃ row ∈ work, note = row ∨ note = { row with updatedAt := env.later } := by
  obtain ⟨row, hrow, rfl⟩ := List.mem_map.1 h
  refine ⟨row, hrow, ?_⟩
  split
  · split
    · exact Or.inl rfl
    · exact Or.inr rfl
  · exact Or.inl rfl

theorem SupportEnv.sound_flush {now : Time} (saved : List SupportNote) {work : List SupportNote}
    (h : SoundNotes now work) : SoundNotes now (env.flush saved work) := by
  intro note hnote
  obtain ⟨row, hrow, rfl | rfl⟩ := env.mem_flush hnote
  · exact h _ hrow
  · exact ⟨(h row hrow).evaluated, (h row hrow).state, (h row hrow).resolved, (h row hrow).resolvedBy⟩

theorem SupportEnv.commit_keeps (now : Time) : Keeps (Rows (SoundNotes now) fun _ => True) env.commit :=
  Keeps.commit fun _ saved _ _ hwork => env.sound_flush saved hwork

/-- A new note is sound when the request ends, and has just been looked at. -/
theorem newSupportNote_sound {payload : SupportNoteCreateRequest} {tenantId : Nat} {currentAdmin : StaffUser}
    {notes : List SupportNote} {note : SupportNote} (htimes : env.now ≤ env.later)
    (h : newSupportNote env payload tenantId currentAdmin notes = .ok note) :
    note.Sound env.later ∧ note.slaLastEvaluatedAt = env.later := by
  obtain ⟨state, hstate, h⟩ := bind_eq_ok.1 h
  cases h
  refine ⟨⟨le_refl _, computeSlaState_ok hstate, ?_, ?_⟩, rfl⟩
  · dsimp only
    split_ifs with hresolved <;> simp [hresolved]
  · intro t ht
    dsimp only at ht
    split_ifs at ht
    · cases ht
      exact htimes
    · cases ht

/-- An update keeps a note sound: `resolved_at` goes with the status, and the state is the one of its end. -/
theorem updatedSupportNote_sound {payload : SupportNoteUpdateRequest} {note note' : SupportNote}
    (hnote : note.Sound env.later) (htimes : env.now ≤ env.later)
    (h : updatedSupportNote env payload note = .ok note') :
    note'.Sound env.later ∧ note'.slaLastEvaluatedAt = env.later := by
  obtain ⟨state, hstate, h⟩ := bind_eq_ok.1 h
  cases h
  refine ⟨⟨le_refl _, computeSlaState_ok hstate, ?_, ?_⟩, rfl⟩
  · dsimp only [SupportNote.updated]
    cases payload.status with
    | none => exact hnote.resolved
    | some status =>
      simp only [Option.isNone_some, Bool.false_eq_true, if_false, Option.map_some, Option.getD_some]
      split_ifs with hresolved
      · simp [hresolved]
      · simp [hresolved]
  · intro t ht
    dsimp only [SupportNote.updated] at ht
    split_ifs at ht
    · exact hnote.resolvedBy t ht
    · cases hresolvedAt : note.resolvedAt with
      | none =>
        rw [hresolvedAt] at ht
        cases ht
        exact htimes
      | some t' =>
        rw [hresolvedAt] at ht
        cases ht
        exact hnote.resolvedBy _ hresolvedAt
    · cases ht

variable {env} (htimes : env.now ≤ env.later)
include htimes

theorem listSupportNotes_keeps (tenantId : Option Nat) :
    Keeps (Rows (SoundNotes env.later) fun _ => True) (listSupportNotes env tenantId) := by
  have hcommit := env.commit_keeps env.later
  refine Keeps.bind (Keeps.body ?_) fun _ => Keeps.bind hcommit fun _ => Keeps.bind hcommit fun _ => Keeps.pure _
  intro notes listed notes' hnotes hlisted
  rw [mapM_listed] at hlisted
  cases hlisted
  intro note hnote
  obtain ⟨row, hrow, rfl⟩ := List.mem_map.1 hnote
  exact (hnotes row hrow).relisted htimes tenantId

/-- What a write puts into the table: a note that has just been looked at, beside sound ones. -/
def WritesSound (env : SupportEnv)
    (write : List SupportNote → Except SupportError (SupportNote × List SupportNote)) : Prop :=
  ∀ notes note notes', SoundNotes env.later notes → write notes = .ok (note, notes') →
    SoundNotes env.later notes' ∧ note.Sound env.later ∧ note.slaLastEvaluatedAt = env.later

theorem createdNote_sound (payload : SupportNoteCreateRequest) (currentAdmin : StaffUser) :
    WritesSound env (createdNote env payload currentAdmin) := by
  intro notes note notes' h hwritten
  unfold createdNote at hwritten
  cases htenant : env.db.tenant? payload.tenantId with
  | none =>
    rw [htenant] at hwritten
    cases hwritten
  | some tenant =>
    rw [htenant] at hwritten
    dsimp only at hwritten
    by_cases hempty : strip payload.note = ""
    · rw [if_pos hempty] at hwritten
      cases hwritten
    rw [if_neg hempty] at hwritten
    obtain ⟨created, hcreated, hwritten⟩ := bind_eq_ok.1 hwritten
    cases hwritten
    refine ⟨fun row hrow => ?_, newSupportNote_sound env htimes hcreated⟩
    obtain hrow | rfl := mem_insert.1 hrow
    · exact h row hrow
    · exact (newSupportNote_sound env htimes hcreated).1

theorem updatedNote_sound (noteId : Nat) (payload : SupportNoteUpdateRequest) :
    WritesSound env (updatedNote env noteId payload) := by
  intro notes note notes' h hwritten
  unfold updatedNote at hwritten
  cases hold : get? notes noteId with
  | none =>
    rw [hold] at hwritten
    cases hwritten
  | some old =>
    rw [hold] at hwritten
    obtain ⟨updated, hupdated, hwritten⟩ := bind_eq_ok.1 hwritten
    cases hwritten
    have hsound := updatedSupportNote_sound env (h old (mem_of_get? hold)) htimes hupdated
    refine ⟨fun row hrow => ?_, hsound⟩
    obtain rfl | hrow := mem_put hrow
    · exact hsound.1
    · exact h row hrow

omit htimes

theorem storeNote_keeps {write : List SupportNote → Except SupportError (SupportNote × List SupportNote)}
    (hwrite : WritesSound env write) (currentAdmin : StaffUser) :
    Keeps (Rows (SoundNotes env.later) fun _ => True) (storeNote env write currentAdmin) := by
  have hcommit := env.commit_keeps env.later
  exact Keeps.bind (Keeps.body fun notes note notes' h hwritten => (hwrite notes note notes' h hwritten).1) fun _ =>
    Keeps.bind hcommit fun _ => Keeps.bind hcommit fun _ => Keeps.pure _

/-- The note that is answered has the state of the moment. -/
theorem storeNote_state {write : List SupportNote → Except SupportError (SupportNote × List SupportNote)}
    (hwrite : WritesSound env write) {currentAdmin : StaffUser} {notes : List SupportNote}
    (h : SoundNotes env.later notes) {answer : SupportAnswer}
    (hanswer : (storeNote env write currentAdmin (opened notes ())).1 = .ok answer) :
    ∃ note, answer = .note note currentAdmin.email ∧ note.slaState = note.stateAt env.later ∧
      (note.resolvedAt.isSome = true ↔ note.status = "resolved") := by
  obtain ⟨note, s, hwritten, hrest⟩ := of_bind_ok hanswer
  obtain ⟨-, s₁, -, hrest⟩ := of_bind_ok hrest
  obtain ⟨-, s₂, -, hrest⟩ := of_bind_ok hrest
  cases hrest
  unfold body at hwritten
  split at hwritten
  · rename_i heq
    cases hwritten
    obtain ⟨-, hsound, hevaluated⟩ := hwrite _ _ _ h heq
    refine ⟨_, rfl, ?_, hsound.resolved⟩
    have hstate := hsound.state
    rw [hevaluated] at hstate
    exact hstate
  · cases hwritten

include htimes

theorem SupportRequest.program_keeps (request : SupportRequest) :
    Keeps (Rows (SoundNotes env.later) fun _ => True) (request.program env) := by
  cases request with
  | list tenantId => exact listSupportNotes_keeps htimes tenantId
  | create payload currentAdmin =>
    exact storeNote_keeps (createdNote_sound htimes payload currentAdmin) currentAdmin
  | update noteId payload currentAdmin =>
    exact storeNote_keeps (updatedNote_sound htimes noteId payload) currentAdmin
  | metrics => exact Keeps.bind Keeps.read fun _ => Keeps.bind (env.commit_keeps env.later) fun _ => Keeps.pure _

end

namespace SupportDesk

/-- All notes are sound when the last request ended. -/
def Sound (desk : SupportDesk) : Prop := SoundNotes desk.now desk.notes

theorem env_times (desk : SupportDesk) (arrival : SupportArrival) : (desk.env arrival).now ≤ (desk.env arrival).later :=
  Nat.le_add_right ..

theorem Sound.later {desk : SupportDesk} (h : desk.Sound) (arrival : SupportArrival) :
    SoundNotes (desk.env arrival).later desk.notes := fun note hnote =>
  (h note hnote).mono (Nat.le_trans (Nat.le_add_right ..) (desk.env_times arrival))

theorem Sound.step {desk : SupportDesk} (h : desk.Sound) (arrival : SupportArrival) : (desk.step arrival).Sound :=
  (SupportRequest.program_keeps (desk.env_times arrival) arrival.request).apply
    (s := opened desk.notes ()) ⟨h.later arrival, h.later arrival, trivial⟩ |>.2.1

theorem Sound.run {desk : SupportDesk} (h : desk.Sound) (arrivals : List SupportArrival) :
    (run SupportDesk.step desk arrivals).Sound :=
  (Always.of_invariant (I := Sound) (fun _ arrival h => h.step arrival) h arrivals).last

end SupportDesk

/-! ### The counts -/

/-- Counting what fails one way and what fails the other. -/
theorem countP_add_countP {α : Type} {p q r s : α → Bool} {l : List α}
    (h : ∀ a ∈ l, (p a).toNat + (q a).toNat = (r a).toNat + (s a).toNat) :
    l.countP p + l.countP q = l.countP r + l.countP s := by
  induction l with
  | nil => rfl
  | cons a l ih =>
    have ha := h a (List.mem_cons_self ..)
    have hl := ih fun b hb => h b (List.mem_cons_of_mem _ hb)
    rw [List.countP_cons, List.countP_cons, List.countP_cons, List.countP_cons]
    cases hp : p a <;> cases hq : q a <;> cases hr : r a <;> cases hs : s a <;>
      simp only [hp, hq, hr, hs, Bool.toNat_true, Bool.toNat_false, if_true, if_false, Bool.false_eq_true] at ha ⊢ <;>
      omega

/-! ### What a date tells -/

namespace SupportNote

theorem stateAt_breached_iff (note : SupportNote) (now : Time) :
    note.stateAt now = .breached ↔ note.isDue (fun due => due < now) = true := by
  unfold stateAt slaStateAt isDue
  by_cases hresolved : note.status = "resolved"
  · simp [hresolved]
  · cases note.slaDueAt with
    | none => simp [hresolved]
    | some due =>
      by_cases hpast : due < now
      · simp [hresolved, hpast]
      · by_cases hnear : due ≤ now + hours 24 <;> simp [hresolved, hpast, hnear]

theorem stateAt_dueSoon_iff (note : SupportNote) (now : Time) :
    note.stateAt now = .dueSoon ↔ note.isDue (fun due => now ≤ due && due ≤ now + hours 24) = true := by
  unfold stateAt slaStateAt isDue
  by_cases hresolved : note.status = "resolved"
  · simp [hresolved]
  · cases note.slaDueAt with
    | none => simp [hresolved]
    | some due =>
      by_cases hpast : due < now
      · simp [hresolved, hpast, Nat.not_le.2 hpast]
      · by_cases hnear : due ≤ now + hours 24 <;> simp [hresolved, hpast, hnear, Nat.not_lt.1 hpast]

theorem isDue_false (note : SupportNote) : (note.isDue fun _ => false) = false := by
  unfold isDue
  cases note.slaDueAt <;> simp

/-- What holds of every date holds of the notes that are due. -/
theorem isDue_add (note : SupportNote) {p q r s : Time → Bool}
    (h : ∀ due, (p due).toNat + (q due).toNat = (r due).toNat + (s due).toNat) :
    (note.isDue p).toNat + (note.isDue q).toNat = (note.isDue r).toNat + (note.isDue s).toNat := by
  unfold isDue
  by_cases hresolved : note.status = "resolved"
  · simp [hresolved]
  · cases note.slaDueAt with
    | none => simp
    | some due => simpa [hresolved] using h due

end SupportNote

namespace SupportNote.Sound

variable {note : SupportNote} {before now : Time} (h : note.Sound before) (hnow : before ≤ now)
include h hnow

/-- A breach that is stored is one, and one that is not stored has come since the note was looked at. -/
theorem breached_add :
    (decide (note.slaState = .breached)).toNat + (note.passedSince now).toNat =
      (decide (note.stateAt now = .breached)).toNat + false.toNat := by
  have hevaluated : note.slaLastEvaluatedAt ≤ now := Nat.le_trans h.evaluated hnow
  rw [h.state, ← note.isDue_false]
  simp only [stateAt_breached_iff, Bool.decide_eq_true]
  refine note.isDue_add fun due => ?_
  by_cases hbefore : due < note.slaLastEvaluatedAt
  · have hpast : due < now := Nat.lt_of_lt_of_le hbefore hevaluated
    simp [hbefore, hpast, Nat.not_le.2 hbefore]
  · simp [hbefore, Nat.not_lt.1 hbefore]

/-- What is stored as near and what came near since, is near or has passed. -/
theorem dueSoon_add :
    (decide (note.slaState = .dueSoon)).toNat + (note.nearedSince now).toNat =
      (decide (note.stateAt now = .dueSoon)).toNat + (note.nearPassedSince now).toNat := by
  have hevaluated : note.slaLastEvaluatedAt ≤ now := Nat.le_trans h.evaluated hnow
  rw [h.state]
  simp only [stateAt_dueSoon_iff, Bool.decide_eq_true]
  refine note.isDue_add fun due => ?_
  by_cases hpast : due < now
  · simp [hpast, Nat.not_le.2 hpast]
  · have hto : now ≤ due := Nat.not_lt.1 hpast
    have hsince : note.slaLastEvaluatedAt ≤ due := Nat.le_trans hevaluated hto
    by_cases hnear : due ≤ note.slaLastEvaluatedAt + hours 24
    · have hnear' : due ≤ now + hours 24 := Nat.le_trans hnear (Nat.add_le_add_right hevaluated _)
      simp [hpast, hto, hsince, hnear, hnear', Nat.not_lt.2 hnear]
    · simp [hpast, hto, hnear, Nat.not_le.1 hnear]

end SupportNote.Sound

/-! ### What is answered -/

/-- What an answer tells of the notes it was given at. -/
def SupportDesk.Tells (desk : SupportDesk) (arrival : SupportArrival) : SupportAnswer → Prop
  | .notes entries => ∀ entry ∈ entries, entry.1.slaState = entry.1.stateAt (desk.env arrival).now
  | .note note _ =>
    note.slaState = note.stateAt (desk.env arrival).later ∧ (note.resolvedAt.isSome = true ↔ note.status = "resolved")
  | .metrics supportOpenNotes supportBreachedNotes supportDueSoonNotes =>
    supportOpenNotes = (desk.notes.countP fun note => note.status ≠ "resolved") ∧
      ∀ now, desk.now ≤ now →
        supportBreachedNotes + desk.notes.countP (SupportNote.passedSince · now) =
          (desk.notes.countP fun note => note.stateAt now = .breached) ∧
        supportDueSoonNotes + desk.notes.countP (SupportNote.nearedSince · now) =
          (desk.notes.countP fun note => note.stateAt now = .dueSoon) +
            desk.notes.countP (SupportNote.nearPassedSince · now)

section

variable {env : SupportEnv} {notes : List SupportNote}

/-- A listing works on the notes as it makes them. -/
theorem listing_apply (tenantId : Option Nat) (now : Time) :
    body (fun notes => do
        let notes ← notes.mapM (SupportNote.listed tenantId now)
        return (notes.filter fun note => note.isListed tenantId, notes)) (opened notes ()) =
      ((.ok ((notes.map (SupportNote.relisted tenantId now)).filter fun note => note.isListed tenantId) :
          Except SupportError (List SupportNote)),
        { opened notes () with work := notes.map (SupportNote.relisted tenantId now) }) := by
  refine body_ok ?_
  dsimp only [opened]
  rw [mapM_listed]
  rfl

theorem listSupportNotes_tells {tenantId : Option Nat} {answer : SupportAnswer}
    (hanswer : (listSupportNotes env tenantId (opened notes ())).1 = .ok answer) :
    ∃ entries, answer = .notes entries ∧ ∀ entry ∈ entries, entry.1.slaState = entry.1.stateAt env.now := by
  unfold listSupportNotes at hanswer
  rw [bind_ok (listing_apply tenantId env.now)] at hanswer
  obtain ⟨-, s₁, -, hanswer⟩ := of_bind_ok hanswer
  obtain ⟨-, s₂, -, hanswer⟩ := of_bind_ok hanswer
  cases hanswer
  refine ⟨_, rfl, fun entry hentry => ?_⟩
  obtain ⟨note, hnote, rfl⟩ := List.mem_map.1 hentry
  have hnote := List.mem_filter.1 ((List.mergeSort_perm ..).mem_iff.1 hnote)
  obtain ⟨row, -, rfl⟩ := List.mem_map.1 hnote.1
  rw [row.relisted_isListed] at hnote
  exact SupportNote.relisted_state hnote.2 env.now

/-- The notes of a tenant, or all of them, have the state of a time. -/
def SettledNotes (tenantId : Option Nat) (now : Time) (notes : List SupportNote) : Prop :=
  ∀ note ∈ notes, note.isListed tenantId = true → note.slaState = note.stateAt now

theorem SupportEnv.settled_flush {tenantId : Option Nat} {now : Time} (saved : List SupportNote)
    {work : List SupportNote} (h : SettledNotes tenantId now work) :
    SettledNotes tenantId now (env.flush saved work) := by
  intro note hnote hlisted
  obtain ⟨row, hrow, rfl | rfl⟩ := env.mem_flush hnote
  · exact h _ hrow hlisted
  · exact h row hrow hlisted

/-- A listing whose first commit holds leaves the notes it was asked for with the state of the moment. -/
theorem listSupportNotes_settles (tenantId : Option Nat) (hcommit : env.commitFails 0 = false) :
    SettledNotes tenantId env.now (listSupportNotes env tenantId (opened notes ())).2.saved := by
  have hfirst : env.commit { opened notes () with work := notes.map (SupportNote.relisted tenantId env.now) } = _ :=
    commit_ok (if_neg (by simp [opened, hcommit]))
  have hrelisted : SettledNotes tenantId env.now (notes.map (SupportNote.relisted tenantId env.now)) := by
    intro note hnote hlisted
    obtain ⟨row, -, rfl⟩ := List.mem_map.1 hnote
    rw [row.relisted_isListed] at hlisted
    exact SupportNote.relisted_state hlisted env.now
  have hcommitted := env.settled_flush notes hrelisted
  have hsecond : Keeps (Rows (SettledNotes tenantId env.now) fun _ => True) env.commit :=
    Keeps.commit fun _ saved _ _ hwork => env.settled_flush saved hwork
  unfold listSupportNotes
  rw [bind_ok (listing_apply tenantId env.now), bind_ok hfirst]
  exact ((hsecond.bind fun _ => Keeps.pure _).apply ⟨hcommitted, hcommitted, trivial⟩).2.1

theorem getAdminMetrics_tells {answer : SupportAnswer}
    (hanswer : (getAdminMetrics env (opened notes ())).1 = .ok answer) : answer = supportMetrics notes := by
  unfold getAdminMetrics at hanswer
  rw [bind_ok (read_apply _)] at hanswer
  obtain ⟨-, s, -, hanswer⟩ := of_bind_ok hanswer
  cases hanswer
  rfl

end

theorem SupportDesk.Sound.tells_metrics {desk : SupportDesk} (h : desk.Sound) (arrival : SupportArrival) :
    desk.Tells arrival (supportMetrics desk.notes) := by
  refine ⟨rfl, fun now hnow => ⟨?_, ?_⟩⟩
  · have hcounts := countP_add_countP fun note hnote => (h note hnote).breached_add hnow
    simpa using hcounts
  · exact countP_add_countP fun note hnote => (h note hnote).dueSoon_add hnow

theorem SupportDesk.Sound.tells {desk : SupportDesk} (h : desk.Sound) (arrival : SupportArrival)
    {answer : SupportAnswer} (hanswer : (desk.answer arrival).1 = .ok answer) : desk.Tells arrival answer := by
  have hlater := h.later arrival
  have htimes := desk.env_times arrival
  obtain ⟨elapsed, taken, db, commitFails, request⟩ := arrival
  cases request with
  | list tenantId =>
    obtain ⟨entries, rfl, hentries⟩ := listSupportNotes_tells hanswer
    exact hentries
  | create payload currentAdmin =>
    obtain ⟨note, rfl, hnote⟩ := storeNote_state (createdNote_sound htimes payload currentAdmin) hlater hanswer
    exact hnote
  | update noteId payload currentAdmin =>
    obtain ⟨note, rfl, hnote⟩ := storeNote_state (updatedNote_sound htimes noteId payload) hlater hanswer
    exact hnote
  | metrics =>
    rw [getAdminMetrics_tells hanswer]
    exact h.tells_metrics _

/-- **The stored states lag, and by how much.**  In every run from sound notes, what is listed or written is answered
with the state of the moment; the metrics count the open notes, but of the breached and the near ones only what was
stored: the notes whose dates have come since they were looked at are missing.  A listing settles what it lists. -/
theorem metrics_lag {desk : SupportDesk} (h : desk.Sound) (arrivals : List SupportArrival) (arrival : SupportArrival) :
    (∀ answer, ((run SupportDesk.step desk arrivals).answer arrival).1 = .ok answer →
        (run SupportDesk.step desk arrivals).Tells arrival answer) ∧
      ∀ tenantId, arrival.request = .list tenantId → arrival.commitFails 0 = false →
        SettledNotes tenantId ((run SupportDesk.step desk arrivals).env arrival).now
          ((run SupportDesk.step desk arrivals).step arrival).notes := by
  refine ⟨fun answer => (h.run arrivals).tells arrival, fun tenantId hrequest hcommit => ?_⟩
  obtain ⟨elapsed, taken, db, commitFails, request⟩ := arrival
  cases hrequest
  exact listSupportNotes_settles tenantId hcommit

namespace Small

def afterAnHour (request : SupportRequest) : SupportArrival where
  elapsed := hours 1
  taken := 0
  db := (after [createTenant]).db
  commitFails _ := false
  request := request

/-- A note that is due before the next hour. -/
def promised : List SupportArrival :=
  [afterAnHour (.create
    { tenantId := 1
      category := "call"
      ownerName := none
      ownerContact := none
      slaDueAt := some ⟨hours 1 + 60, true⟩
      status := none
      note := "Call back about the import." }
    ⟨9, "support@example.com", "support"⟩)]

/-- The breach is not counted an hour later, unless the notes are listed. -/
theorem breach_uncounted :
    (run SupportDesk.step ⟨0, []⟩ promised).Tells (afterAnHour .metrics) (.metrics 1 0 1) ∧
      SettledNotes none (hours 2) ((run SupportDesk.step ⟨0, []⟩ promised).step (afterAnHour (.list none))).notes :=
  have nothing : SupportDesk.Sound ⟨0, []⟩ := fun _ hnote => nomatch hnote
  ⟨(metrics_lag nothing promised (afterAnHour .metrics)).1 _ (by decide +kernel),
    (metrics_lag nothing promised (afterAnHour (.list none))).2 none rfl rfl⟩

end Small

end ControlPlane
