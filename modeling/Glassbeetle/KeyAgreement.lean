import Glassbeetle.MasterKey
import Glassbeetle.Runs

set_option autoImplicit false

namespace Glassbeetle.KeyAgreement
open JsText ExecutionChain Encryption MasterKey Runs

variable {Process : Type} [DecidableEq Process]

def Rereads : Phase → Prop
  | .opening _ => True
  | .reading _ size => size = 32
  | _ => False

/-- What is in the file is the beginning of one key, and only the whole of it is ever obtained. -/
structure Agreed (w : World Process) : Prop where
  short : ∀ content, w.file = some content → content.length ≤ 32
  obtained : ∀ r ∈ w.log, ∀ key, r.result = .ok key → w.file = some key ∧ key.length = 32
  remembered : ∀ p key, w.masterKey p = some key → ∃ r ∈ w.log, r.result = .ok key
  writing : ∀ p newKey left late faulted, w.call p = some ⟨.writing newKey left, late, faulted⟩ →
    ∃ content, w.file = some content ∧ content ++ left = newKey.1
  alone : ∀ p q newKey left late faulted newKey' left' late' faulted',
    w.call p = some ⟨.writing newKey left, late, faulted⟩ →
    w.call q = some ⟨.writing newKey' left', late', faulted'⟩ → p = q
  late : ∀ p phase faulted, w.call p = some ⟨phase, true, faulted⟩ →
    Rereads phase ∧ w.obtained = true
  answered : ∀ r ∈ w.log, r.late = true → r.faulted = false → ∃ key, r.result = .ok key

omit [DecidableEq Process] in
theorem obtained_iff (w : World Process) :
    w.obtained = true ↔ ∃ r ∈ w.log, ∃ key, r.result = .ok key := by
  unfold World.obtained
  rw [List.any_eq_true]
  refine exists_congr fun r => and_congr_right fun _ => ⟨fun h => ok_of_isOk _ h, ?_⟩
  rintro ⟨key, h⟩
  rw [h]
  rfl

variable (w : World Process) (h : Agreed w)

include h

omit [DecidableEq Process] in
theorem obtained_file (hobtained : w.obtained = true) :
    ∃ key, w.file = some key ∧ key.length = 32 := by
  obtain ⟨r, hr, key, hkey⟩ := (obtained_iff w).mp hobtained
  exact ⟨key, h.obtained r hr key hkey⟩

theorem agreed_proceed (p : Process) (call : Call)
    (hphase : ∀ newKey left, call.phase ≠ .writing newKey left)
    (hlate : call.late = true → Rereads call.phase ∧ w.obtained = true) :
    Agreed (w.proceed p call) := by
  have hwriting : ∀ q newKey left late faulted,
      Function.update w.call p (some call) q = some ⟨.writing newKey left, late, faulted⟩ →
      w.call q = some ⟨.writing newKey left, late, faulted⟩ := by
    intro q newKey left late faulted hq
    by_cases hqp : q = p
    · rw [hqp, Function.update_self] at hq
      cases hq
      exact absurd rfl (hphase newKey left)
    · rwa [Function.update_of_ne hqp] at hq
  refine ⟨h.short, h.obtained, h.remembered, ?_, ?_, ?_, h.answered⟩
  · exact fun q newKey left late faulted hq => h.writing q _ _ _ _ (hwriting q _ _ _ _ hq)
  · intro q r _ _ _ _ _ _ _ _ hq hr
    exact h.alone q r _ _ _ _ _ _ _ _ (hwriting q _ _ _ _ hq) (hwriting r _ _ _ _ hr)
  · intro q phase faulted hq
    change Function.update w.call p (some call) q = _ at hq
    by_cases hqp : q = p
    · rw [hqp, Function.update_self] at hq
      cases hq
      exact hlate rfl
    · rw [Function.update_of_ne hqp] at hq
      exact h.late q phase faulted hq

theorem agreed_finish (p : Process) (call : Call) (result : Except Failure Octets)
    (hok : ∀ key, result = .ok key → w.file = some key ∧ key.length = 32)
    (hanswered : call.late = true → call.faulted = false → ∃ key, result = .ok key) :
    Agreed (w.finish p call result) := by
  have hstill : ∀ q called, Function.update w.call p none q = some called → w.call q = some called := by
    intro q called hq
    by_cases hqp : q = p
    · rw [hqp, Function.update_self] at hq
      cases hq
    · rwa [Function.update_of_ne hqp] at hq
  refine ⟨h.short, fun r hr key hkey => ?_, fun q key hq => ?_, ?_, ?_, fun q phase faulted hq => ?_,
    fun r hr hlate hfault => ?_⟩
  · rcases List.mem_append.mp hr with hr | hr
    · exact h.obtained r hr key hkey
    · obtain rfl := List.mem_singleton.mp hr
      exact hok key hkey
  · cases result with
    | error failure =>
      change w.masterKey q = some key at hq
      obtain ⟨r, hr, hkey⟩ := h.remembered q key hq
      exact ⟨r, List.mem_append_left _ hr, hkey⟩
    | ok found =>
      change Function.update w.masterKey p (some found) q = some key at hq
      by_cases hqp : q = p
      · rw [hqp, Function.update_self] at hq
        cases hq
        exact ⟨_, List.mem_append_right _ (List.mem_singleton_self _), rfl⟩
      · rw [Function.update_of_ne hqp] at hq
        obtain ⟨r, hr, hkey⟩ := h.remembered q key hq
        exact ⟨r, List.mem_append_left _ hr, hkey⟩
  · exact fun q newKey left late faulted hq => h.writing q _ _ _ _ (hstill q _ hq)
  · intro q r _ _ _ _ _ _ _ _ hq hr
    exact h.alone q r _ _ _ _ _ _ _ _ (hstill q _ hq) (hstill r _ hr)
  · obtain ⟨hphase, hobtained⟩ := h.late q phase faulted (hstill q _ hq)
    obtain ⟨r, hr, hkey⟩ := (obtained_iff w).mp hobtained
    exact ⟨hphase, (obtained_iff _).mpr ⟨r, List.mem_append_left _ hr, hkey⟩⟩
  · rcases List.mem_append.mp hr with hr | hr
    · exact h.answered r hr hlate hfault
    · obtain rfl := List.mem_singleton.mp hr
      exact hanswered hlate hfault

theorem agreed_failed (filePath : JsString) (p : Process) (call : Call) (hcall : w.call p = some call)
    (code message : JsString) : Agreed (w.failed filePath p call code message) := by
  have hfaulted : ∀ failure, Agreed (w.finish p { call with faulted := true } (.error failure)) :=
    fun failure => agreed_finish w h p _ _ (fun _ hkey => nomatch hkey) (fun _ hfault => nomatch hfault)
  unfold World.failed
  dsimp only
  split_ifs
  · exact hfaulted _
  · refine agreed_proceed w h p _ (fun _ _ => Phase.noConfusion) fun hlate => ?_
    obtain ⟨phase, late, faulted⟩ := call
    obtain rfl : late = true := hlate
    exact ⟨trivial, (h.late p phase faulted hcall).2⟩
  · exact hfaulted _

theorem agreed_getMasterKey (filePath : JsString) (p : Process) :
    Agreed (step filePath w (.getMasterKey p)) := by
  dsimp only [step]
  cases hcall : w.call p with
  | some call => exact h
  | none =>
    cases hkey : w.masterKey p with
    | some key =>
      obtain ⟨r, hr, hresult⟩ := h.remembered p key hkey
      refine agreed_finish w h p _ _ (fun found hfound => ?_) fun _ _ => ⟨key, rfl⟩
      cases hfound
      exact h.obtained r hr key hresult
    | none =>
      refine agreed_proceed w h p _ (fun newKey left => ?_) fun hlate => ⟨?_, hlate⟩
      · dsimp only
        split_ifs <;> exact Phase.noConfusion
      · obtain ⟨key, hfile, -⟩ := obtained_file w h hlate
        dsimp only
        rw [hfile]
        trivial

theorem agreed_generate (filePath : JsString) (p : Process) (newKey : Key) :
    Agreed (step filePath w (.generate p newKey)) := by
  dsimp only [step]
  split
  next late faulted hcall =>
    refine agreed_proceed w h p _ (fun _ _ => Phase.noConfusion) fun hlate => ?_
    obtain rfl : late = true := hlate
    exact (h.late p _ _ hcall).1.elim
  next => exact h

theorem agreed_create (filePath : JsString) (p : Process) :
    Agreed (step filePath w (.create p)) := by
  dsimp only [step]
  split
  next newKey late faulted content hcall hfile =>
    refine agreed_proceed w h p _ (fun _ _ => Phase.noConfusion) fun hlate => ?_
    obtain rfl : late = true := hlate
    exact (h.late p _ _ hcall).1.elim
  next newKey late faulted hcall hfile =>
    have hnobody : ∀ r ∈ w.log, ∀ key, r.result ≠ .ok key := fun r hr key hkey => by
      have := (h.obtained r hr key hkey).1
      rw [hfile] at this
      cases this
    have hunwritten : ∀ q newKey left late faulted,
        w.call q ≠ some ⟨.writing newKey left, late, faulted⟩ := fun q _ _ _ _ hq => by
      obtain ⟨content, hcontent, -⟩ := h.writing q _ _ _ _ hq
      rw [hfile] at hcontent
      cases hcontent
    have hwriter : ∀ q newKey' left late' faulted', Function.update w.call p
        (some ⟨.writing newKey newKey.1, late, faulted⟩) q =
          some ⟨.writing newKey' left, late', faulted'⟩ →
        q = p ∧ newKey = newKey' ∧ newKey.1 = left := by
      intro q newKey' left late' faulted' hq
      by_cases hqp : q = p
      · rw [hqp, Function.update_self] at hq
        cases hq
        exact ⟨hqp, rfl, rfl⟩
      · rw [Function.update_of_ne hqp] at hq
        exact absurd hq (hunwritten q _ _ _ _)
    refine ⟨fun content hcontent => ?_, fun r hr key hkey => absurd hkey (hnobody r hr key),
      fun q key hq => ?_, fun q newKey' left late' faulted' hq => ?_,
      fun q r newKey' left' _ _ newKey'' left'' _ _ hq hr => ?_, fun q phase faulted' hq => ?_,
      h.answered⟩
    · cases hcontent
      exact Nat.zero_le _
    · obtain ⟨r, hr, hkey⟩ := h.remembered q key hq
      exact absurd hkey (hnobody r hr key)
    · obtain ⟨-, rfl, rfl⟩ := hwriter q newKey' left late' faulted' hq
      exact ⟨[], rfl, rfl⟩
    · exact (hwriter q _ _ _ _ hq).1.trans (hwriter r _ _ _ _ hr).1.symm
    · change Function.update w.call p _ q = _ at hq
      by_cases hqp : q = p
      · rw [hqp, Function.update_self] at hq
        cases hq
        exact (h.late p _ _ hcall).1.elim
      · rw [Function.update_of_ne hqp] at hq
        exact h.late q phase faulted' hq
  next => exact h

theorem agreed_write (filePath : JsString) (p : Process) (n : ℕ) :
    Agreed (step filePath w (.write p n)) := by
  dsimp only [step]
  split
  next newKey left late faulted hcall =>
    obtain ⟨content, hfile, hkey⟩ := h.writing p newKey left late faulted hcall
    have hwritten : content ++ left.take n ++ left.drop n = newKey.1 := by
      rw [List.append_assoc, List.take_append_drop, hkey]
    -- a key that somebody holds already is the whole of the file
    have hwhole : ∀ key : Octets, w.file = some key → key.length = 32 →
        content ++ left.take n = key := by
      intro key hfile' hlength
      obtain rfl : content = key := Option.some.inj (hfile.symm.trans hfile')
      have hsum := congrArg List.length hkey
      rw [List.length_append, newKey.2, hlength] at hsum
      have hnil : left = [] := List.eq_nil_of_length_eq_zero (by omega)
      rw [hnil, List.take_nil, List.append_nil]
    have hmap : w.file.map (· ++ left.take n) = some (content ++ left.take n) := by
      rw [hfile]
      rfl
    refine ⟨fun content' hcontent' => ?_, fun r hr key hr' => ?_, h.remembered,
      fun q newKey' left' late' faulted' hq => ?_, fun q r _ _ _ _ _ _ _ _ hq hr => ?_,
      fun q phase faulted' hq => ?_, h.answered⟩
    · obtain rfl := Option.some.inj (hmap.symm.trans hcontent')
      have hsum := congrArg List.length hwritten
      rw [List.length_append, newKey.2] at hsum
      omega
    · obtain ⟨hfile', hlength⟩ := h.obtained r hr key hr'
      exact ⟨hmap.trans (congrArg some (hwhole key hfile' hlength)), hlength⟩
    · refine ⟨content ++ left.take n, hmap, ?_⟩
      change Function.update w.call p _ q = _ at hq
      by_cases hqp : q = p
      · rw [hqp, Function.update_self] at hq
        cases hq
        exact hwritten
      · rw [Function.update_of_ne hqp] at hq
        exact absurd (h.alone q p _ _ _ _ _ _ _ _ hq hcall) hqp
    · have honly : ∀ q newKey' left' late' faulted', Function.update w.call p
          (some ⟨.writing newKey (left.drop n), late, faulted⟩) q =
            some ⟨.writing newKey' left', late', faulted'⟩ → q = p := by
        intro q newKey' left' late' faulted' hq
        by_contra hqp
        rw [Function.update_of_ne hqp] at hq
        exact hqp (h.alone q p _ _ _ _ _ _ _ _ hq hcall)
      exact (honly q _ _ _ _ hq).trans (honly r _ _ _ _ hr).symm
    · change Function.update w.call p _ q = _ at hq
      by_cases hqp : q = p
      · rw [hqp, Function.update_self] at hq
        cases hq
        exact (h.late p _ _ hcall).1.elim
      · rw [Function.update_of_ne hqp] at hq
        exact h.late q phase faulted' hq
  next => exact h

theorem agreed_close (filePath : JsString) (p : Process) :
    Agreed (step filePath w (.close p)) := by
  dsimp only [step]
  split
  next newKey late faulted hcall =>
    obtain ⟨content, hfile, hkey⟩ := h.writing p newKey [] late faulted hcall
    rw [List.append_nil] at hkey
    refine agreed_finish w h p _ _ (fun key hfound => ?_) fun _ _ => ⟨newKey.1, rfl⟩
    cases hfound
    exact ⟨hfile.trans (congrArg some hkey), newKey.2⟩
  next => exact h

theorem agreed_openFile (filePath : JsString) (p : Process) :
    Agreed (step filePath w (.openFile p)) := by
  dsimp only [step]
  split
  next recovering late faulted content hcall hfile =>
    refine agreed_proceed w h p _ (fun _ _ => Phase.noConfusion) fun hlate => ?_
    obtain rfl : late = true := hlate
    have hobtained := (h.late p _ _ hcall).2
    obtain ⟨key, hkey, hlength⟩ := obtained_file w h hobtained
    obtain rfl : content = key := Option.some.inj (hfile.symm.trans hkey)
    exact ⟨hlength, hobtained⟩
  next => exact h

theorem agreed_read (filePath : JsString) (p : Process) (n : ℕ) :
    Agreed (step filePath w (.read p n)) := by
  dsimp only [step]
  split
  next recovering size late faulted content hcall hfile =>
    split_ifs with hsize
    · have hshort := h.short content hfile
      have hlength : (content.take n).length = n := by
        rw [List.length_take]
        omega
      by_cases hn : n = 32
      · have hwhole : content.take n = content := List.take_of_length_le (by omega)
        have hparse : parseAndValidateKey (content.take n) filePath = .ok (content.take n) :=
          if_pos (hlength.trans hn)
        rw [hparse]
        refine agreed_finish w h p _ _ (fun key hkey => ?_) fun _ _ => ⟨_, rfl⟩
        cases hkey
        exact ⟨hfile.trans (congrArg some hwhole.symm), hlength.trans hn⟩
      · obtain ⟨failure, hfailure⟩ := parse_partial (content.take n) filePath (by omega)
        rw [hfailure]
        refine agreed_finish w h p _ _ (fun _ hkey => nomatch hkey) fun hlate _ => ?_
        obtain rfl : late = true := hlate
        have hread : size = 32 := (h.late p _ _ hcall).1
        omega
    · exact h
  next => exact h

theorem agreed_kill (filePath : JsString) (p : Process) : Agreed (step filePath w (.kill p)) := by
  have hstill : ∀ q called, Function.update w.call p none q = some called → w.call q = some called := by
    intro q called hq
    by_cases hqp : q = p
    · rw [hqp, Function.update_self] at hq
      cases hq
    · rwa [Function.update_of_ne hqp] at hq
  refine ⟨h.short, h.obtained, fun q key hq => ?_, ?_, ?_, ?_, h.answered⟩
  · change Function.update w.masterKey p none q = some key at hq
    by_cases hqp : q = p
    · rw [hqp, Function.update_self] at hq
      cases hq
    · rw [Function.update_of_ne hqp] at hq
      exact h.remembered q key hq
  · exact fun q newKey left late faulted hq => h.writing q _ _ _ _ (hstill q _ hq)
  · intro q r _ _ _ _ _ _ _ _ hq hr
    exact h.alone q r _ _ _ _ _ _ _ _ (hstill q _ hq) (hstill r _ hr)
  · exact fun q phase faulted hq => h.late q phase faulted (hstill q _ hq)

theorem agreed_step (filePath : JsString) (action : Action Process) :
    Agreed (step filePath w action) := by
  cases action with
  | getMasterKey p => exact agreed_getMasterKey w h filePath p
  | generate p newKey => exact agreed_generate w h filePath p newKey
  | create p => exact agreed_create w h filePath p
  | write p n => exact agreed_write w h filePath p n
  | close p => exact agreed_close w h filePath p
  | openFile p => exact agreed_openFile w h filePath p
  | read p n => exact agreed_read w h filePath p n
  | kill p => exact agreed_kill w h filePath p
  | fault p code message =>
    dsimp only [step]
    cases hcall : w.call p with
    | none => exact h
    | some call => exact agreed_failed w h filePath p call hcall code message

omit h

theorem log_grows (filePath : JsString) (action : Action Process) (r : Returned Process)
    (hr : r ∈ w.log) : r ∈ (step filePath w action).log := by
  have hfinish : ∀ p call result, r ∈ (w.finish p call result).log := fun _ _ _ =>
    List.mem_append_left _ hr
  cases action with
  | fault p code message =>
    dsimp only [step]
    cases w.call p with
    | none => exact hr
    | some call =>
      dsimp only [World.failed]
      split_ifs
      · exact hfinish _ _ _
      · exact hr
      · exact hfinish _ _ _
  | read p n =>
    dsimp only [step]
    split
    · split_ifs
      · exact hfinish _ _ _
      · exact hr
    · exact hr
  | getMasterKey p =>
    dsimp only [step]
    split
    · exact hr
    · exact hfinish _ _ _
    · exact hr
  | close p =>
    dsimp only [step]
    split
    · exact hfinish _ _ _
    · exact hr
  | kill p => exact hr
  | _ =>
    dsimp only [step]
    split <;> exact hr

omit [DecidableEq Process] in
theorem agreed_start : Agreed (start : World Process) := by
  refine ⟨?_, ?_, ?_, ?_, ?_, ?_, ?_⟩
  · exact fun _ hfile => nomatch hfile
  · exact fun _ hr => absurd hr List.not_mem_nil
  · exact fun _ _ hkey => nomatch hkey
  · exact fun _ _ _ _ _ hcall => nomatch hcall
  · exact fun _ _ _ _ _ _ _ _ _ _ hcall => nomatch hcall
  · exact fun _ _ _ hcall => nomatch hcall
  · exact fun _ hr => absurd hr List.not_mem_nil

/-- A key that a process obtains is in the file from then on, every key that any process obtains is
the same, and a call that begins afterwards returns it unless the operating system fails the call. -/
theorem master_key_agreement (filePath : JsString) (actions more : List (Action Process)) :
    ∀ w ∈ states (step filePath) start actions, ∀ r ∈ w.log, ∀ key, r.result = .ok key →
      key.length = 32 ∧ ∀ after ∈ states (step filePath) w more, after.file = some key ∧
        ∀ other ∈ after.log, (∀ key', other.result = .ok key' → key' = key) ∧
          (other.late = true → other.faulted = false → other.result = .ok key) := by
  intro w hw r hr key hkey
  have hagreed := states_invariant (step filePath) Agreed
    (fun w action h => agreed_step w h filePath action) start actions agreed_start w hw
  refine ⟨(hagreed.obtained r hr key hkey).2, fun after hafter => ?_⟩
  obtain ⟨hlater, hlogged⟩ := states_invariant (step filePath) (fun v => Agreed v ∧ r ∈ v.log)
    (fun v action h => ⟨agreed_step v h.1 filePath action, log_grows v filePath action r h.2⟩)
    w more ⟨hagreed, hr⟩ after hafter
  have hfile := (hlater.obtained r hlogged key hkey).1
  have hsame : ∀ other ∈ after.log, ∀ key', other.result = .ok key' → key' = key := by
    intro other hother key' hkey'
    have hfile' := (hlater.obtained other hother key' hkey').1
    exact Option.some.inj (hfile'.symm.trans hfile)
  refine ⟨hfile, fun other hother => ⟨hsame other hother, fun hlate hfault => ?_⟩⟩
  obtain ⟨key', hkey'⟩ := hlater.answered other hother hlate hfault
  rw [hkey', hsame other hother key' hkey']

def sevens : Key := ⟨List.replicate 32 7, rfl⟩

def nines : Key := ⟨List.replicate 32 9, rfl⟩

/-- Both processes find no file; the second is refused by the first one's file and reads it. -/
def race : List (Action ℕ) :=
  [.getMasterKey 1, .getMasterKey 2, .generate 1 sevens, .generate 2 nines, .create 1, .create 2,
    .write 1 20, .write 1 12, .openFile 2, .close 1, .read 2 32]

def raced : World ℕ := race.foldl (step (js "master.key")) start

theorem master_key_agreement_race :
    raced.log.map (·.result) = [.ok sevens.1, .ok sevens.1] ∧ sevens.1.length = 32 ∧
      raced.file = some sevens.1 := by
  have hlog : raced.log = [⟨1, false, false, .ok sevens.1⟩, ⟨2, false, false, .ok sevens.1⟩] := rfl
  have hmem : (⟨1, false, false, .ok sevens.1⟩ : Returned ℕ) ∈ raced.log := by
    rw [hlog]
    exact List.mem_cons_self
  have hagree := master_key_agreement (js "master.key") race [] raced (final_mem _ _ _) _ hmem
    sevens.1 rfl
  exact ⟨by rw [hlog]; rfl, hagree.1, (hagree.2 raced List.mem_cons_self).1⟩

end Glassbeetle.KeyAgreement
