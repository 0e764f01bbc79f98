import DeviceLab.Proofs.Reservation.Protocol
import DeviceLab.Proofs.Session.Teardown

/-!
# Sessions on the clients there are

A `Course` leaves open what the reservation answers, and so a session may return any error that the
reservation made up (`Answered`). Here the reservation is a client of one of the kinds of
`Protocol.Kind`, which goes its own way and meets the session only when it answers a claim or a
release of the caller: `ClientSession` is the common history of the two. Whoever else calls the
client, and whatever it does meanwhile, is part of that history.

The session of such a history has a course (`ClientSession.course`) and the client has a history of
its own (`ClientSession.history`), whose answers are verdicts of the protocol
(`Protocol.Conduct.Lawful.answers_eq`). The only errors among these are `alreadyReserving` and
`notReserving` (`ClientSession.eq_of_answered`). So `ClientSession.returns`, which rests on
`Course.stageInvariant` and `timedOut_of_concluded`, says without reserve what
`Course.complete_of_returned` and `Course.tears_down` say of any reservation: the channels of a
session are never found closed, and a session that returns that time was up counts its own reports.
-/

namespace DeviceLab

/-! ### Verdicts -/

namespace Protocol

/-- The machine of two phases (`verdicts`) rejects calls in two ways. -/
theorem eq_of_mem_verdicts {p : Phase} {calls : List Call} {e : LabError}
    (he : .error e ∈ verdicts p calls) : e = .alreadyReserving ∨ e = .notReserving := by
  induction calls generalizing p with
  | nil => cases he
  | cons call calls ih =>
    rcases List.mem_cons.1 he with he | he
    · cases p <;> cases call <;> cases he
      · exact .inr rfl
      · exact .inl rfl
    · exact ih he

/-- The clients of `Kind` reject calls in these two ways only. -/
theorem Conduct.History.eq_of_mem_answers {k : Kind} {g : List k.conduct.Turn}
    {c : k.conduct.Client} (hg : k.conduct.History g c) {e : LabError}
    (he : .error e ∈ answers g) : e = .alreadyReserving ∨ e = .notReserving := by
  have hverdict : .error e ∈ verdicts .idling (calls g) := by
    rw [← (k.lawful.answers_eq hg).1]
    exact List.mem_append_left _ he
  exact eq_of_mem_verdicts hverdict

end Protocol

namespace Session

open Protocol (Kind Conduct)

variable {k : Kind} {first s s' : Session} {h : List Turn} {m : Move} {ns : List Notice}
  {g : List k.conduct.Turn} {c : k.conduct.Client} {capacity : Nat} {requests : List Request}

/-! ### Common histories -/

/-- The answer of the reservation that a move is. -/
def Move.verdict? : Move → Option (Except LabError Unit)
  | .claimed reply => some reply
  | .released reply => some reply
  | _ => none

/-- A session and the client of a `Protocol.Kind` that is its reservation went from a first state of
the session, and from any state of the client, to others in so many turns of each. -/
inductive ClientSession (k : Kind) (first : Session) :
    List Turn → Session → List k.conduct.Turn → k.conduct.Client → Prop
  | start {g : List k.conduct.Turn} {c : k.conduct.Client} (hg : k.conduct.History g c) :
      ClientSession k first [] first g c
  /-- Anybody but the client makes a move. -/
  | turn {h : List Turn} {s s' : Session} {ns : List Notice} {g : List k.conduct.Turn}
      {c : k.conduct.Client} (m : Move) (hm : m.verdict? = none)
      (hr : ClientSession k first h s g c) (hs : s.step m = some (s', ns)) :
      ClientSession k first (h ++ [⟨s, m, ns⟩]) s' g c
  /-- The stream of the reservation changes. -/
  | feed {h : List Turn} {s : Session} {g : List k.conduct.Turn} {c : k.conduct.Client}
      (stream : Channel Coordinate) (hr : ClientSession k first h s g c) :
      ClientSession k first h { s with stream } g c
  /-- The client does something that this session does not see. -/
  | act {h : List Turn} {s : Session} {g : List k.conduct.Turn} {c c' : k.conduct.Client}
      {a : Option (Except LabError Unit)} (d : k.conduct.Deed) (hr : ClientSession k first h s g c)
      (hc : k.conduct.act c d = some (c', a)) :
      ClientSession k first h s (g ++ [⟨c, d, a, c'⟩]) c'
  /-- The client answers, and the caller goes on. -/
  | answered {h : List Turn} {s s' : Session} {ns : List Notice} {g : List k.conduct.Turn}
      {c c' : k.conduct.Client} {reply : Except LabError Unit} (m : Move) (d : k.conduct.Deed)
      (hm : m.verdict? = some reply) (hr : ClientSession k first h s g c)
      (hc : k.conduct.act c d = some (c', some reply)) (hs : s.step m = some (s', ns)) :
      ClientSession k first (h ++ [⟨s, m, ns⟩]) s' (g ++ [⟨c, d, some reply, c'⟩]) c'

/-- The session of a common history has a course. -/
theorem ClientSession.course (hr : ClientSession k first h s g c) : Course first h s := by
  induction hr with
  | start => exact .start
  | turn m _ _ hs ih => exact ih.turn m hs
  | feed stream _ ih => exact ih.feed stream
  | act _ _ _ ih => exact ih
  | answered m _ _ _ _ hs ih => exact ih.turn m hs

/-- The client of a common history has a history of its own. -/
theorem ClientSession.history (hr : ClientSession k first h s g c) : k.conduct.History g c := by
  induction hr with
  | start hg => exact hg
  | turn _ _ _ _ ih => exact ih
  | feed _ _ ih => exact ih
  | act d _ hc ih => exact ih.turn d hc
  | answered _ d _ _ hc _ ih => exact ih.turn d hc

/-- Moves that were followed, with no answer of the client among them, belong to a common
history. -/
theorem ClientSession.follow {more : List Turn} (hr : ClientSession k first h s g c)
    (ms : List Move) (hms : ms.all (·.verdict?.isNone) = true)
    (hf : s.follow ms = some (more, s')) :
    ClientSession k first (h ++ more) s' g c :=
  of_follow_all (P := fun h s ↦ ClientSession k first h s g c)
    (fun m hm hr hs ↦ hr.turn m (Option.isNone_iff_eq_none.1 hm) hs) hr ms hms hf

/-! ### What the client answers -/

/-- Whatever the session was answered, the client answered. -/
theorem ClientSession.mem_answers (hr : ClientSession k first h s g c) :
    ∀ t ∈ h, ∀ reply, t.move.verdict? = some reply → reply ∈ Conduct.answers g := by
  have hconcat {g : List k.conduct.Turn} (t : k.conduct.Turn) {reply : Except LabError Unit}
      (hreply : reply ∈ Conduct.answers g) : reply ∈ Conduct.answers (g ++ [t]) := by
    rw [Conduct.answers_append_singleton]
    exact List.mem_append_left _ hreply
  induction hr with
  | start => exact List.forall_mem_nil _
  | turn m hm _ _ ih =>
    refine List.forall_mem_append.2 ⟨ih, List.forall_mem_singleton.2 fun reply hreply ↦ ?_⟩
    rw [hm] at hreply
    cases hreply
  | feed _ _ ih => exact ih
  | act _ _ _ ih => exact fun t ht reply hreply ↦ hconcat _ (ih t ht reply hreply)
  | answered m d hm _ _ _ ih =>
    refine List.forall_mem_append.2
      ⟨fun t ht reply hreply ↦ hconcat _ (ih t ht reply hreply), List.forall_mem_singleton.2 ?_⟩
    intro reply hreply
    obtain rfl := Option.some.inj (hm.symm.trans hreply)
    rw [Conduct.answers_append_singleton]
    exact List.mem_append_right _ (List.mem_singleton_self _)

/-- The client has `Answered` with no errors but those of the protocol. -/
theorem ClientSession.eq_of_answered (hr : ClientSession k first h s g c) {e : LabError}
    (he : Answered h e) : e = .alreadyReserving ∨ e = .notReserving := by
  obtain ⟨t, ht, hmove⟩ := he
  refine hr.history.eq_of_mem_answers (hr.mem_answers t ht _ ?_)
  rcases hmove with hmove | hmove
  all_goals rw [hmove]; rfl

/-! ### What the session returns -/

/-- **On the clients there are, a session returns reports that are `Complete`, or an error that is
not about its channels.** If it returns that time was up, it has fewer reports than requests and
tells of how many. -/
theorem ClientSession.returns (hr : ClientSession k (call capacity requests).1 h s g c)
    (hd : ((drawn h).map (·.1)).Nodup) {r : Except LabError (List Report)}
    (hs : s.stage = .returned r) :
    (∀ rs, r = .ok rs → Complete requests h rs) ∧
      (∀ channel, r ≠ .error (.channelClosed channel)) ∧
      ∀ completed expected, r = .error (LabError.sessionTimeout completed expected) →
        completed < expected ∧ expected = requests.length ∧
          completed =
            (requests.filter fun q ↦ (collectedIn h).any (·.request.id = q.id)).length := by
  have ho := hr.course.stageInvariant hd
  have hinvariant := hr.course.teardownInvariant
  rw [hs] at ho hinvariant
  refine ⟨?_, ?_, ?_⟩
  · rintro rs rfl
    exact ho.2
  · rintro channel rfl
    have he := hr.eq_of_answered (ho channel rfl)
    simp at he
  · intro completed expected htime
    rcases timedOut_of_concluded hinvariant.2 htime with he | hnumbers
    · have hverdict := hr.eq_of_answered he
      simp at hverdict
    · exact hnumbers

/-- A session on a pool, which is claimed and released for it. -/
theorem returns_of_pool :
    ∃ (h : List Turn) (s : Session) (g : List Protocol.pooled.Turn) (p : Simulation.Pool)
      (rs : List Report),
      ClientSession .pooled (call 1 [sampleRequest 1]).1 h s g p ∧
        Conduct.answers g = [.ok (), .ok ()] ∧ s.stage = .returned (.ok rs) ∧
        Complete [sampleRequest 1] h rs := by
  have hcalled : ClientSession .pooled (call 1 [sampleRequest 1]).1 [] (sample 1) []
      Protocol.pooled.fresh := (ClientSession.start .start).feed _
  have hclaimed := hcalled.answered (k := .pooled) (.claimed (.ok ()))
    (Protocol.PoolDeed.claim (.session 0) []) rfl rfl rfl
  have hdrained := hclaimed.follow (sampleBreak.tail ++ [.collect, .join 0, .drained]) rfl rfl
  have hreleased := hdrained.answered (k := .pooled) (.released (.ok ()))
    Protocol.PoolDeed.release rfl rfl rfl
  exact ⟨_, _, _, _, _, hreleased, rfl, rfl, (hreleased.returns (by decide) rfl).1 _ rfl⟩

end Session

end DeviceLab
