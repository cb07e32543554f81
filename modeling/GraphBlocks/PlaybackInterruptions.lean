import GraphBlocks.RustStd

/-! `PlaybackLedger` and `InterruptionClassifier` of the runtime core. -/
namespace GraphBlocks.Voice
open RustStd List

inductive VoiceContractError where
 | invalid (fieldName message:String)
deriving DecidableEq

inductive PlaybackStatus where
 | queued | started | completed | interrupted
deriving DecidableEq

def PlaybackStatus.asStr : PlaybackStatus→String
 | .queued=>"queued"
 | .started=>"started"
 | .completed=>"completed"
 | .interrupted=>"interrupted"

/-- The status under `{:?}`. -/
def PlaybackStatus.name : PlaybackStatus→String
 | .queued=>"Queued"
 | .started=>"Started"
 | .completed=>"Completed"
 | .interrupted=>"Interrupted"

structure PlaybackEntry where
 playbackId:String
 sequence:ℕ
 status:PlaybackStatus
 audioRef:Option String
 startedAtMs:Option ℕ
 completedAtMs:Option ℕ
 acknowledgedAtMs:Option ℕ
 reason:Option String
deriving DecidableEq

def requireNonEmpty (fieldName value:String) : Except VoiceContractError Unit :=
 ensure (!isBlank value) (.invalid fieldName "must not be empty")

namespace PlaybackEntry

variable (self:PlaybackEntry)

def validate : Except VoiceContractError Unit := do
 requireNonEmpty "playback_id" self.playbackId
 match self.audioRef with
 | some audioRef=>requireNonEmpty "audio_ref" audioRef
 | none=>return ()

/-- The checks of a completed or interrupted entry. -/
def validateFinished : Except VoiceContractError Unit := do
 ensure self.startedAtMs.isSome
  (.invalid "playback" (self.status.asStr ++ " playback requires started_at_ms"))
 ensure self.completedAtMs.isSome
  (.invalid "playback" (self.status.asStr ++ " playback requires completed_at_ms"))
 ensure (decide (self.startedAtMs.getD 0≤ self.completedAtMs.getD 0))
  (.invalid "completed_at_ms" "must be greater than or equal to started_at_ms")
 ensure (!(self.status == .completed&&self.reason.isSome))
  (.invalid "playback" "completed playback must not have a reason")
 ensure (!(self.status == .interrupted&&self.reason.isNone))
  (.invalid "playback" "interrupted playback requires a reason")
 ensure (!self.acknowledgedAtMs.any (· < self.completedAtMs.getD 0))
  (.invalid "acknowledged_at_ms" "must be greater than or equal to completed_at_ms")

def validateLifecycle : Except VoiceContractError Unit := do
 self.validate
 match self.status with
 | .queued=>
  ensure (self.startedAtMs.isNone&&self.completedAtMs.isNone &&
    self.acknowledgedAtMs.isNone&&self.reason.isNone)
   (.invalid "playback" "queued playback must not have lifecycle timestamps or a reason")
 | .started=>do
  ensure self.startedAtMs.isSome (.invalid "playback" "started playback requires started_at_ms")
  ensure (self.completedAtMs.isNone&&self.acknowledgedAtMs.isNone&&self.reason.isNone)
   (.invalid "playback" "started playback must not be completed, acknowledged, or have a reason")
 | .completed | .interrupted=>self.validateFinished

end PlaybackEntry

structure PlaybackLedger where
 entries:List PlaybackEntry
deriving DecidableEq

namespace PlaybackLedger

def new : PlaybackLedger := ⟨[]⟩

def append (self:PlaybackLedger) (entry:PlaybackEntry) :
  Except VoiceContractError PlaybackLedger := do
 entry.validateLifecycle
 match self.entries.find? fun existing=>
   existing.playbackId==entry.playbackId||existing.sequence==entry.sequence with
 | some existing=>
  if existing=entry then .ok self
  else .error (.invalid "playback" "playback_id and sequence must identify one immutable entry")
 | none=>do
  ensure (!self.entries.getLast?.any fun last=>decide (entry.sequence≤last.sequence))
   (.invalid "playback" "playback entries must be appended in sequence order")
  return ⟨self.entries++[entry]⟩

def fromEntries (entries:List PlaybackEntry) : Except VoiceContractError PlaybackLedger :=
 entries.foldlM append new

variable (self:PlaybackLedger)

def activePlaybackIds : List String :=
 (self.entries.filter fun entry=>entry.status == .started).map PlaybackEntry.playbackId

def interruptEntry (occurredAtMs:ℕ) (reason:String) (entry:PlaybackEntry) :
  Except VoiceContractError PlaybackEntry :=
 if entry.status = .started then
  if entry.startedAtMs.any (occurredAtMs < ·) then
   .error (.invalid "playback" "playback interruption occurred before playback start")
  else .ok { entry with
   status:=.interrupted,completedAtMs:=some occurredAtMs,acknowledgedAtMs:=none
   reason:=some reason }
 else .ok entry

def interruptActive (occurredAtMs:ℕ) (reason:String) :
  Except VoiceContractError PlaybackLedger := do
 requireNonEmpty "interruption reason" reason
 let entries ← collect (interruptEntry occurredAtMs reason) self.entries
 fromEntries entries

section

-- `{:?}` on a string
variable (debug:String→String)

/-- The loop that `start`, `complete` and `acknowledge` have in common. -/
def updateEntry (playbackId:String) (update:PlaybackEntry→Except VoiceContractError PlaybackEntry) :
  Except VoiceContractError PlaybackLedger := do
 requireNonEmpty "playback_id" playbackId
 let entries ← collect
  (fun entry=>if entry.playbackId=playbackId then update entry else .ok entry) self.entries
 ensure (self.entries.any fun entry=>entry.playbackId==playbackId)
  (.invalid "playback_id" (debug playbackId ++ " is unknown"))
 fromEntries entries

def start (playbackId:String) (occurredAtMs:ℕ) : Except VoiceContractError PlaybackLedger :=
 self.updateEntry debug playbackId fun entry=>
  if entry.status = .started∧entry.startedAtMs=some occurredAtMs then .ok entry
  else if entry.status≠.queued then
   .error (.invalid "playback" ("cannot start playback in " ++ entry.status.name ++ " status"))
  else .ok { entry with status:=.started,startedAtMs:=some occurredAtMs }

def complete (playbackId:String) (occurredAtMs:ℕ) : Except VoiceContractError PlaybackLedger :=
 self.updateEntry debug playbackId fun entry=>
  if entry.status = .completed∧entry.completedAtMs=some occurredAtMs then .ok entry
  else if entry.status≠.started then
   .error (.invalid "playback" ("cannot complete playback in " ++ entry.status.name ++ " status"))
  else if entry.startedAtMs.any (occurredAtMs < ·) then
   .error (.invalid "playback" "playback completion occurred before playback start")
  else .ok { entry with status:=.completed,completedAtMs:=some occurredAtMs }

def acknowledge (playbackId:String) (occurredAtMs:ℕ) : Except VoiceContractError PlaybackLedger :=
 self.updateEntry debug playbackId fun entry=>
  if entry.status∉[PlaybackStatus.completed,.interrupted] then
   .error (.invalid "playback"
    ("cannot acknowledge playback in " ++ entry.status.name ++ " status"))
  else if entry.completedAtMs.any (occurredAtMs < ·) then
   .error (.invalid "playback" "playback acknowledgement occurred before playback completion")
  else
   match entry.acknowledgedAtMs with
   | some acknowledgedAtMs=>
    if acknowledgedAtMs=occurredAtMs then .ok entry
    else
     .error (.invalid "playback"
      "playback acknowledgement conflicts with the recorded acknowledgement")
   | none=>.ok { entry with acknowledgedAtMs:=some occurredAtMs }
end

end PlaybackLedger

inductive InterruptionKind where
 | continue | interrupt
deriving DecidableEq

inductive VadDecisionKind where
 | silence | speechStart | speech | speechEnd
deriving DecidableEq

structure InterruptionDecision where
 classifierId:String
 sessionId:String
 kind:InterruptionKind
 occurredAtMs:ℕ
 interruptedPlaybackIds:List String
 reason:Option String
deriving DecidableEq

structure ProviderInterruptionDecision where
 authorityId:String
 sessionId:String
 kind:InterruptionKind
 occurredAtMs:ℕ
 reason:Option String

structure InterruptionClassifier where
 classifierId:String
 providerAuthorityId:Option String

def InterruptionClassifier.classifyWithProviderDecision (self:InterruptionClassifier)
  (sessionId:String) (vadKind:VadDecisionKind) (playback:PlaybackLedger) (occurredAtMs:ℕ)
  (providerDecision:Option ProviderInterruptionDecision) :
  Except VoiceContractError InterruptionDecision := do
 requireNonEmpty "session_id" sessionId
 match self.providerAuthorityId with
 | some providerAuthorityId=>
  match providerDecision with
  | none=>.ok ⟨self.classifierId,sessionId,.continue,occurredAtMs,[],
    some "awaiting_provider_confirmation"⟩
  | some provider=>do
   ensure (provider.authorityId==providerAuthorityId)
    (.invalid "provider_authority_id" "does not match classifier authority")
   ensure (provider.sessionId==sessionId)
    (.invalid "provider_session_id" "belongs to a different session")
   ensure (decide (provider.occurredAtMs≤occurredAtMs))
    (.invalid "provider_interruption_decision" "occurred after interruption classification")
   if provider.kind = .interrupt then
    return ⟨self.classifierId,sessionId,.interrupt,provider.occurredAtMs,
     (playback.entries.filter fun entry=>entry.status == .started &&
      entry.startedAtMs.any (· ≤ provider.occurredAtMs)).map PlaybackEntry.playbackId,
     some (provider.reason.getD "provider_confirmed_interruption")⟩
   else return ⟨self.classifierId,sessionId,.continue,provider.occurredAtMs,[],provider.reason⟩
 | none=>
  if playback.activePlaybackIds≠[]∧vadKind∈[VadDecisionKind.speechStart,.speech] then
   .ok ⟨self.classifierId,sessionId,.interrupt,occurredAtMs,playback.activePlaybackIds,
    some "user_speech_during_playback"⟩
  else .ok ⟨self.classifierId,sessionId,.continue,occurredAtMs,[],none⟩

open PlaybackLedger

/-- The ledgers that successful calls lead to. -/
inductive Reachable (debug:String→String) : PlaybackLedger→Prop where
 | new : Reachable debug new
 | append {ledger next:PlaybackLedger} {entry:PlaybackEntry} (h:Reachable debug ledger)
  (hcall:ledger.append entry=.ok next) : Reachable debug next
 | start {ledger next:PlaybackLedger} {playbackId:String} {t:ℕ} (h:Reachable debug ledger)
  (hcall:ledger.start debug playbackId t=.ok next) : Reachable debug next
 | complete {ledger next:PlaybackLedger} {playbackId:String} {t:ℕ} (h:Reachable debug ledger)
  (hcall:ledger.complete debug playbackId t=.ok next) : Reachable debug next
 | interruptActive {ledger next:PlaybackLedger} {reason:String} {t:ℕ}
  (h:Reachable debug ledger) (hcall:ledger.interruptActive t reason=.ok next) :
  Reachable debug next
 | acknowledge {ledger next:PlaybackLedger} {playbackId:String} {t:ℕ}
  (h:Reachable debug ledger) (hcall:ledger.acknowledge debug playbackId t=.ok next) :
  Reachable debug next

/-- Every active playback started by `t`. -/
def StartedBy (ledger:PlaybackLedger) (t:ℕ) : Prop :=
 ∀entry∈ledger.entries,entry.status = .started → ∀s,entry.startedAtMs=some s→s≤t

/-- Exactly the entries with an id among `ids` are changed. -/
def Changes (ledger next:PlaybackLedger) (ids:List String) : Prop :=
 List.Forall₂ (fun entry entry'=>entry'.playbackId=entry.playbackId ∧
  (entry'≠entry↔entry.playbackId∈ids)) ledger.entries next.entries

/-- Interrupting at the time and with the reason of the decision changes what the decision names. -/
def CarriedOut (ledger:PlaybackLedger) (decision:InterruptionDecision) : Prop :=
 ∃reason next,decision.reason=some reason ∧
  ledger.interruptActive decision.occurredAtMs reason=.ok next ∧
  Changes ledger next decision.interruptedPlaybackIds

/-- No active playback started after the provider's time, or after the classification where no
provider decides, and the provider's reason is not blank. -/
def Carriable (classifier:InterruptionClassifier) (ledger:PlaybackLedger) (occurredAtMs:ℕ)
  (providerDecision:Option ProviderInterruptionDecision) : Prop :=
 match classifier.providerAuthorityId, providerDecision with
 | some _, some provider=>
  StartedBy ledger provider.occurredAtMs ∧ ∀reason,provider.reason=some reason→isBlank reason=false
 | _, _=>StartedBy ledger occurredAtMs

variable {debug:String→String} {ledger next:PlaybackLedger} {entry:PlaybackEntry}
 {entries done:List PlaybackEntry} {t:ℕ} {reason playbackId:String}

/-- Valid entries in the order of their sequences, each with an id of its own. -/
structure Sound (entries:List PlaybackEntry) : Prop where
 valid:∀entry∈entries,entry.validateLifecycle=.ok ()
 ordered:entries.Pairwise fun a b=>a.sequence<b.sequence∧a.playbackId≠b.playbackId

lemma Sound.concat_last(h:Sound (done++[entry])):
  ∀existing∈done,existing.sequence<entry.sequence∧existing.playbackId≠entry.playbackId:=
 fun existing hexisting=>(pairwise_append.mp h.ordered).2.2 existing hexisting entry mem_cons_self

lemma append_sound(h:Sound (done++[entry])):append ⟨done⟩ entry=.ok ⟨done++[entry]⟩:=by
 have hlast:=h.concat_last
 have hnone:(done.find? fun existing=>
   existing.playbackId==entry.playbackId||existing.sequence==entry.sequence)=none:=by
  rw [List.find?_eq_none]
  intro existing hexisting
  obtain ⟨hsequence,hid⟩:=hlast existing hexisting
  simp [hid,hsequence.ne]
 have hnot:(done.getLast?.any fun last=>decide (entry.sequence≤last.sequence))=false:=by
  cases hget:done.getLast? with
  | none=>rfl
  | some last=>
   have hsequence:=(hlast last (mem_of_getLast? hget)).1
   simpa using hsequence
 unfold append
 rw [h.valid entry (by simp)]
 simp only [ok_bind,hnone,hnot]
 rfl

lemma fromEntries_sound(h:Sound entries):fromEntries entries=.ok ⟨entries⟩:=by
 have hfold:∀(rest done:List PlaybackEntry),Sound (done++rest) →
   rest.foldlM append ⟨done⟩=.ok ⟨done++rest⟩:=by
  intro rest
  induction rest with
  | nil=>
   intro done _
   rw [append_nil]
   rfl
  | cons entry rest ih=>
   intro done hsound
   rw [append_cons] at hsound ⊢
   have hfirst:Sound (done++[entry]):=
    ⟨fun e he=>hsound.valid e (mem_append_left _ he),(pairwise_append.mp hsound.ordered).1⟩
   rw [foldlM_cons,append_sound hfirst]
   exact ih _ hsound
 exact hfold entries [] h

lemma Sound.append(h:Sound ledger.entries)(hcall:ledger.append entry=.ok next):
  Sound next.entries:=by
 unfold PlaybackLedger.append at hcall
 obtain ⟨⟨⟩,hvalid,hcall⟩:=bind_ok.mp hcall
 split at hcall
 · split_ifs at hcall
   obtain rfl:=Except.ok.inj hcall
   exact h
 · next hnone=>
   obtain ⟨_,hlast,hcall⟩:=bind_ok.mp hcall
   obtain rfl:=Except.ok.inj hcall
   rw [List.find?_eq_none] at hnone
   refine ⟨?_,pairwise_append.mpr ⟨h.ordered,pairwise_singleton _ _,?_⟩⟩
   · intro e he
     rcases mem_append.mp he with he|he
     · exact h.valid e he
     · rw [mem_singleton.mp he]
       exact hvalid
   · intro e he e' he'
     rw [mem_singleton.mp he']
     have hother:=hnone e he
     simp only [Bool.or_eq_true,beq_iff_eq,not_or] at hother
     refine ⟨?_,hother.1⟩
     obtain ⟨last,hget⟩:∃last,ledger.entries.getLast?=some last:=
      ⟨_,List.getLast?_eq_some_getLast (ne_nil_of_mem he)⟩
     have hlow:¬entry.sequence≤last.sequence:=by simpa [hget] using ensure_ok.mp hlast
     have hle:e.sequence≤last.sequence:=by
      obtain ⟨front,hfront⟩:=List.getLast?_eq_some_iff.mp hget
      have hordered:=h.ordered
      rw [hfront] at he hordered
      rcases mem_append.mp he with he|he
      · exact ((pairwise_append.mp hordered).2.2 e he last mem_cons_self).1.le
      · rw [mem_singleton.mp he]
     omega

lemma sound_of_fromEntries(h:fromEntries entries=.ok next):Sound next.entries:=by
 have hfold:∀(rest:List PlaybackEntry) (ledger:PlaybackLedger),Sound ledger.entries →
   rest.foldlM PlaybackLedger.append ledger=.ok next→Sound next.entries:=by
  intro rest
  induction rest with
  | nil=>
   intro ledger hsound hrest
   obtain rfl:=Except.ok.inj hrest
   exact hsound
  | cons entry rest ih=>
   intro ledger hsound hrest
   rw [foldlM_cons] at hrest
   obtain ⟨later,hcall,hrest⟩:=bind_ok.mp hrest
   exact ih later (hsound.append hcall) hrest
 exact hfold entries new ⟨by simp [new],List.Pairwise.nil⟩ h

lemma sound_of_updateEntry{update:PlaybackEntry→Except VoiceContractError PlaybackEntry}
  (h:ledger.updateEntry debug playbackId update=.ok next):Sound next.entries:=by
 unfold updateEntry at h
 obtain ⟨_,-,h⟩:=bind_ok.mp h
 obtain ⟨entries,-,h⟩:=bind_ok.mp h
 obtain ⟨_,-,h⟩:=bind_ok.mp h
 exact sound_of_fromEntries h

lemma Reachable.sound(h:Reachable debug ledger):Sound ledger.entries:=by
 induction h with
 | new=>exact ⟨by simp [PlaybackLedger.new],List.Pairwise.nil⟩
 | append _ hcall ih=>exact ih.append hcall
 | start _ hcall ih=>exact sound_of_updateEntry hcall
 | complete _ hcall ih=>exact sound_of_updateEntry hcall
 | acknowledge _ hcall ih=>exact sound_of_updateEntry hcall
 | interruptActive _ hcall ih=>
  obtain ⟨_,-,hcall⟩:=bind_ok.mp hcall
  obtain ⟨entries,-,hcall⟩:=bind_ok.mp hcall
  exact sound_of_fromEntries hcall

def interrupted (t:ℕ) (reason:String) (entry:PlaybackEntry) : PlaybackEntry :=
 if entry.status = .started then
  { entry with
    status:=.interrupted,completedAtMs:=some t,acknowledgedAtMs:=none,reason:=some reason }
 else entry

lemma interrupted_sequence:(interrupted t reason entry).sequence=entry.sequence:=by
 unfold interrupted
 split <;>rfl

lemma interrupted_playbackId:(interrupted t reason entry).playbackId=entry.playbackId:=by
 unfold interrupted
 split <;>rfl

lemma interrupted_ne_iff:interrupted t reason entry≠entry↔entry.status=.started:=by
 unfold interrupted
 split
 · next hstarted=>
   simp only [ne_eq,hstarted,iff_true]
   intro hsame
   rw [←hsame] at hstarted
   cases hstarted
 · next hother=>simpa using hother

lemma interruptEntry_ok{entry':PlaybackEntry}:interruptEntry t reason entry=.ok entry' ↔
   (entry.status=.started→∀s,entry.startedAtMs=some s→s≤t) ∧
    entry'=interrupted t reason entry:=by
 unfold interruptEntry interrupted
 by_cases hstarted:entry.status=.started
 · rw [if_pos hstarted,if_pos hstarted]
   cases hstart:entry.startedAtMs with
   | none=>simp [eq_comm]
   | some s=>
    by_cases hs:t<s
    · simp [hs,hstarted]
    · simp [hs,Nat.not_lt.mp hs,eq_comm]
 · rw [if_neg hstarted,if_neg hstarted]
   simp [hstarted,eq_comm]

lemma startedAt_of_valid(hvalid:entry.validateLifecycle=.ok ())
  (hstarted:entry.status=.started):∃s,entry.startedAtMs=some s:=by
 unfold PlaybackEntry.validateLifecycle at hvalid
 obtain ⟨⟨⟩,-,hvalid⟩:=bind_ok.mp hvalid
 simp only [hstarted] at hvalid
 obtain ⟨_,hstart,-⟩:=bind_ok.mp hvalid
 exact Option.isSome_iff_exists.mp (ensure_ok.mp hstart)

lemma validate_interrupted(hvalid:entry.validateLifecycle=.ok ())
  (hby:entry.status=.started→∀s,entry.startedAtMs=some s→s≤t):
  (interrupted t reason entry).validateLifecycle=.ok ():=by
 unfold interrupted
 split
 · next hstarted=>
   obtain ⟨s,hs⟩:=startedAt_of_valid hvalid hstarted
   unfold PlaybackEntry.validateLifecycle at hvalid ⊢
   obtain ⟨⟨⟩,hentry,-⟩:=bind_ok.mp hvalid
   refine bind_ok.mpr ⟨(),hentry,?_⟩
   simp [PlaybackEntry.validateFinished,hs,hby hstarted s hs,ensure,ok_bind]
 · exact hvalid

lemma Sound.interrupted(h:Sound ledger.entries)(hby:StartedBy ledger t):
  Sound (ledger.entries.map (interrupted t reason)):=by
 refine ⟨?_,pairwise_map.mpr (h.ordered.imp ?_)⟩
 · intro entry hentry
   obtain ⟨original,horiginal,rfl⟩:=mem_map.mp hentry
   exact validate_interrupted (h.valid original horiginal) (hby original horiginal)
 · intro a b hab
   rwa [interrupted_sequence,interrupted_sequence,interrupted_playbackId,interrupted_playbackId]

/-- When an interruption succeeds, and what it leaves. -/
lemma interruptActive_ok(h:Sound ledger.entries):
  ledger.interruptActive t reason=.ok next↔isBlank reason=false∧StartedBy ledger t ∧
   next=⟨ledger.entries.map (interrupted t reason)⟩:=by
 have hcollect:∀entries,collect (interruptEntry t reason) ledger.entries=.ok entries ↔
   StartedBy ledger t∧entries=ledger.entries.map (interrupted t reason):=by
  intro entries
  have hmap (hby:StartedBy ledger t) : collect (interruptEntry t reason) ledger.entries =
    .ok (ledger.entries.map (interrupted t reason)):=
   collect_map fun entry hentry=>interruptEntry_ok.mpr ⟨hby entry hentry,rfl⟩
  constructor
  · intro hentries
    have hby:StartedBy ledger t:=by
     intro entry hentry
     obtain ⟨entry',-,hok⟩:=collect_mem hentries hentry
     exact (interruptEntry_ok.mp hok).1
    exact ⟨hby,Except.ok.inj (hentries.symm.trans (hmap hby))⟩
  · rintro ⟨hby,rfl⟩
    exact hmap hby
 unfold PlaybackLedger.interruptActive requireNonEmpty
 simp only [bind_ok,ensure_ok,Bool.not_eq_true',hcollect]
 constructor
 · rintro ⟨-,hblank,entries,⟨hby,rfl⟩,hnext⟩
   rw [fromEntries_sound (h.interrupted hby)] at hnext
   exact ⟨hblank,hby,(Except.ok.inj hnext).symm⟩
 · rintro ⟨hblank,hby,rfl⟩
   exact ⟨(),hblank,_,⟨hby,rfl⟩,fromEntries_sound (h.interrupted hby)⟩

lemma Sound.mem_ids(h:Sound ledger.entries){p:PlaybackEntry→Bool}(hentry:entry∈ledger.entries):
  entry.playbackId∈(ledger.entries.filter p).map PlaybackEntry.playbackId↔p entry=true:=by
 constructor
 · intro hid
   obtain ⟨other,hother,hsame⟩:=mem_map.mp hid
   obtain ⟨hmem,hp⟩:=mem_filter.mp hother
   have hnodup:(ledger.entries.map PlaybackEntry.playbackId).Nodup:=
    pairwise_map.mpr (h.ordered.imp And.right)
   obtain rfl:=inj_on_of_nodup_map hnodup hmem hentry hsame
   exact hp
 · intro hp
   exact mem_map_of_mem (mem_filter.mpr ⟨hentry,hp⟩)

/-- A decision that names the active playbacks, as far as all of them started by its time. -/
lemma carriedOut_iff(h:Sound ledger.entries){p:PlaybackEntry→Bool}
  {decision:InterruptionDecision}(hreason:decision.reason=some reason)
  (hids:decision.interruptedPlaybackIds=(ledger.entries.filter p).map PlaybackEntry.playbackId)
  (hp:StartedBy ledger decision.occurredAtMs→∀entry∈ledger.entries,
   (p entry=true↔entry.status=.started)):
  CarriedOut ledger decision↔StartedBy ledger decision.occurredAtMs∧isBlank reason=false:=by
 unfold CarriedOut
 rw [hreason,hids]
 constructor
 · rintro ⟨other,next,hother,hcall,-⟩
   obtain rfl:=Option.some.inj hother
   obtain ⟨hblank,hby,-⟩:=(interruptActive_ok h).mp hcall
   exact ⟨hby,hblank⟩
 · rintro ⟨hby,hblank⟩
   refine ⟨reason,_,rfl,(interruptActive_ok h).mpr ⟨hblank,hby,rfl⟩,?_⟩
   unfold Changes
   rw [forall₂_map_right_iff,forall₂_same]
   intro entry hentry
   rw [interrupted_ne_iff,h.mem_ids hentry,hp hby entry hentry]
   exact ⟨interrupted_playbackId,Iff.rfl⟩

/-- When a decision to interrupt can be carried out on the ledger it was made for. -/
theorem interruption_carried_out_iff (debug : String→String) (ledger : PlaybackLedger)
  (classifier : InterruptionClassifier) (sessionId : String) (vadKind : VadDecisionKind)
  (occurredAtMs : ℕ) (providerDecision : Option ProviderInterruptionDecision)
  (decision : InterruptionDecision) (hreached : Reachable debug ledger)
  (hdecision : classifier.classifyWithProviderDecision sessionId vadKind ledger occurredAtMs
   providerDecision=.ok decision) (hkind : decision.kind = .interrupt) :
  CarriedOut ledger decision↔Carriable classifier ledger occurredAtMs providerDecision := by
 have hsound:=hreached.sound
 unfold InterruptionClassifier.classifyWithProviderDecision at hdecision
 obtain ⟨_,-,hdecision⟩:=bind_ok.mp hdecision
 unfold Carriable
 cases hprovider:classifier.providerAuthorityId with
 | none=>
  simp only [hprovider] at hdecision ⊢
  split_ifs at hdecision
  · obtain rfl:=Except.ok.inj hdecision
    have hreason:isBlank "user_speech_during_playback"=false:=by decide +kernel
    rw [carriedOut_iff hsound rfl rfl (fun _ entry _=>beq_iff_eq),and_iff_left hreason]
  · obtain rfl:=Except.ok.inj hdecision
    cases hkind
 | some authority=>
  cases providerDecision with
  | none=>
   simp only [hprovider] at hdecision
   obtain rfl:=Except.ok.inj hdecision
   cases hkind
  | some provider=>
   simp only [hprovider] at hdecision ⊢
   iterate 3 obtain ⟨-,-,hdecision⟩:=bind_ok.mp hdecision
   split_ifs at hdecision
   · obtain rfl:=Except.ok.inj hdecision
     rw [carriedOut_iff hsound rfl rfl]
     · refine and_congr_right fun _ => ?_
       cases hreason:provider.reason with
       | none=>
        have hconstant:isBlank "provider_confirmed_interruption"=false:=by decide +kernel
        simp [hconstant]
       | some reason=>simp
     · intro hby entry hentry
       simp only [Bool.and_eq_true,beq_iff_eq]
       refine and_iff_left_of_imp fun hstarted => ?_
       obtain ⟨s,hs⟩:=startedAt_of_valid (hsound.valid entry hentry) hstarted
       simpa [hs] using hby entry hentry hstarted s hs
   · obtain rfl:=Except.ok.inj hdecision
     cases hkind

def playback (playbackId:String) (sequence startedAtMs:ℕ) : PlaybackEntry :=
 ⟨playbackId,sequence,.started,none,some startedAtMs,none,none,none⟩

/-- Two active playbacks, the second of which started after the provider's time. -/
def overlapping : PlaybackLedger := ⟨[playback "first" 1 5,playback "second" 2 20]⟩

def confirmation (occurredAtMs:ℕ) : ProviderInterruptionDecision :=
 ⟨"provider","session",.interrupt,occurredAtMs,none⟩

def confirmedClassifier : InterruptionClassifier := ⟨"classifier",some "provider"⟩

lemma overlapping_reachable:Reachable id overlapping:=by
 have hfirst:PlaybackLedger.new.append (playback "first" 1 5)=.ok ⟨[playback "first" 1 5]⟩:=by
  decide +kernel
 have hsecond:PlaybackLedger.append ⟨[playback "first" 1 5]⟩ (playback "second" 2 20) =
   .ok overlapping:=by decide +kernel
 exact .append (.append .new hfirst) hsecond

theorem late_confirmation_carried_out :
  CarriedOut overlapping ⟨"classifier","session",.interrupt,25,["first","second"],
   some "provider_confirmed_interruption"⟩ := by
 refine (interruption_carried_out_iff id overlapping confirmedClassifier "session" .silence 30
  (some (confirmation 25)) _ overlapping_reachable (by decide +kernel) rfl).mpr ⟨?_,?_⟩
 · intro entry hentry _ s hs
   simp only [overlapping,mem_cons,not_mem_nil,or_false] at hentry
   rcases hentry with rfl|rfl <;>cases hs <;>decide
 · intro reason hreason
   cases hreason

theorem early_confirmation_not_carried_out :
  ¬ ∀(debug:String→String) (ledger:PlaybackLedger) (classifier:InterruptionClassifier)
   (sessionId:String) (vadKind:VadDecisionKind) (occurredAtMs:ℕ)
   (providerDecision:Option ProviderInterruptionDecision) (decision:InterruptionDecision),
   Reachable debug ledger →
   classifier.classifyWithProviderDecision sessionId vadKind ledger occurredAtMs
    providerDecision=.ok decision →
   decision.kind = .interrupt→CarriedOut ledger decision := by
 intro h
 obtain ⟨reason,next,hreason,hcall,-⟩:=h id overlapping confirmedClassifier "session" .silence 30
  (some (confirmation 10)) ⟨"classifier","session",.interrupt,10,["first"],
   some "provider_confirmed_interruption"⟩ overlapping_reachable (by decide +kernel) rfl
 obtain rfl:=Option.some.inj hreason
 have hfails:overlapping.interruptActive 10 "provider_confirmed_interruption" = .error
   (.invalid "playback" "playback interruption occurred before playback start"):=by
  decide +kernel
 cases hfails.symm.trans hcall

end GraphBlocks.Voice
