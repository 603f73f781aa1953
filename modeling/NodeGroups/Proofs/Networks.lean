import NodeGroups.Proofs.Creation
import NodeGroups.Proofs.Devices
import NodeGroups.Simulation.Network

namespace NodeGroups

/-- A client as a cloud: a reply is what a conversation of the client comes to, whatever the responses. -/
def Client.cloud (client : Client) : Cloud Unit :=
  fun c _ reply _ => ∃ now turns last, (client.perform c).Run now turns reply last

namespace Network

variable {α : Type}

/-- A conversation that goes on after a pause may come to a result at some time. -/
def Waiting.ComesTo (now : Nat) (a : α) (last : Nat) : Waiting α → Prop
  | .receive rest => ∃ turns, rest.Run now turns a last
  | .look wait started next => ∃ looks result middle turns,
    wait.Run started now looks result middle ∧ (next result).Run middle turns a last

def Stand.ComesTo (now : Nat) (a : α) (last : Nat) : Stand α → Prop
  | .finished b => a = b ∧ last = now
  | .paused wake waiting => waiting.ComesTo wake a last

/-- What comes after a look at a job comes after the wait for it. -/
theorem look_comesTo {wait : JobWait} {started now : Nat} {next : Except Error Json → Conversation α}
    {goOn : Except Error Json → Network → Stand α × Network}
    (hgoOn : ∀ result n a last, (goOn result n).1.ComesTo now a last →
      ∃ turns, (next result).Run now turns a last)
    {n : Network} {a : α} {last : Nat}
    (h : (look wait started now next goOn n).1.ComesTo now a last) :
    (Waiting.look wait started next).ComesTo now a last := by
  unfold look at h
  split at h
  · next hjudge =>
    obtain ⟨looks, result, middle, turns, hwait, hrest⟩ := h
    exact ⟨_, result, middle, turns, .pending hjudge hwait, hrest⟩
  · next result hjudge =>
    have hwait := JobWait.Run.decided (w := wait) hjudge
    split at h
    · next hdelay =>
      obtain ⟨turns, hrest⟩ := hgoOn _ _ _ _ h
      rw [hdelay] at hwait
      exact ⟨_, result, now, turns, hwait, hrest⟩
    · obtain ⟨turns, hrest⟩ := h
      exact ⟨_, result, _, turns, hwait, hrest⟩

/-- However far a conversation comes at once, what it comes to in the end it comes to by turns. -/
theorem converse_comesTo {now : Nat} {n : Network} {c : Conversation α} {a : α} {last : Nat}
    (h : (converse now n c).1.ComesTo now a last) : ∃ turns, c.Run now turns a last := by
  induction c generalizing n a last with
  | done b =>
    obtain ⟨rfl, rfl⟩ := h
    exact ⟨[], .done⟩
  | request r next ih =>
    unfold converse at h
    split at h
    · next hdelay =>
      obtain ⟨turns, hrest⟩ := ih _ h
      exact ⟨⟨r, 0, _⟩ :: turns, .request hrest⟩
    · obtain ⟨turns, hrest⟩ := h
      exact ⟨⟨r, _, _⟩ :: turns, .request hrest⟩
  | await wait next ih =>
    obtain ⟨looks, result, middle, turns, hwait, hrest⟩ :=
      look_comesTo (fun result n a last h => ih result h) h
    exact ⟨looks ++ turns, .await hwait hrest⟩

theorem wake_comesTo {now : Nat} {n : Network} {w : Waiting α} {a : α} {last : Nat}
    (h : (wake now n w).1.ComesTo now a last) : w.ComesTo now a last := by
  cases w with
  | receive rest => exact converse_comesTo h
  | look wait started next => exact look_comesTo (fun result n a last h => converse_comesTo h) h

theorem holdOn_comesTo (now : Nat) (w : Waiting α) (n : Network) :
    w.ComesTo now (holdOn now w n).1 (holdOn now w n).2.1 := by
  induction now, w, n using holdOn.induct with
  | case1 now w n a n' hw =>
    rw [holdOn, hw]
    apply wake_comesTo (n := n)
    rw [hw]
    exact ⟨rfl, rfl⟩
  | case2 now w n moment again n' hw ih =>
    rw [holdOn, hw]
    apply wake_comesTo (n := n)
    rw [hw]
    exact ih

/-- A conversation held over a network is a run of the conversation. -/
theorem hold_run (c : Conversation α) (now : Nat) (n : Network) :
    ∃ turns, c.Run now turns (hold c now n).1 (hold c now n).2.1 :=
  holdOn_comesTo now (.receive c) n

section

variable (client : Client)

theorem finish_eq (c : Call) (wake : Nat) (w : Waiting c.Reply) (n : Network) :
    (device client).finish c wake w n = holdOn wake w n := by
  induction wake, w, n using holdOn.induct with
  | case1 wake w n reply n' hw =>
    have hresume : (device client).resume c w wake n = (.finished reply, n') := by
      simp only [device, hw, progress]
    rw [holdOn, hw]
    exact Device.finish_of_finished hresume
  | case2 wake w n moment again n' hw ih =>
    have hresume : (device client).resume c w wake n = (.asleep moment again, n') := by
      simp only [device, hw, progress]
    rw [holdOn, hw]
    exact (Device.finish_of_asleep hresume).trans ih

/-- Over a network a call is carried out by holding a conversation. -/
theorem carryOut_eq (c : Call) (now : Nat) (n : Network) :
    (device client).carryOut c now n = hold (client.perform c) now n := by
  have hwake : wake now n (.receive (client.perform c)) = converse now n (client.perform c) := rfl
  cases hc : converse now n (client.perform c) with
  | mk stand n' =>
    have hstart : (device client).start c now n = (progress stand, n') := by
      simp only [device, hc]
    unfold Device.carryOut hold holdOn
    rw [hstart, hwake, hc]
    cases stand with
    | finished reply => rfl
    | paused moment again => exact finish_eq client c moment again n'

/-- What comes of a task over a network is what comes of the conversation that the client makes of it. -/
theorem run_toProgram {α : Type} (random : Nat → UInt64) (s : Session Network) (t : Task α) :
    ∃ turns, (client.carry t).Run s.now turns ((device client).run random s t.toProgram).1
      ((device client).run random s t.toProgram).2.now := by
  induction t generalizing s with
  | done a => exact ⟨[], .done⟩
  | call c next ih =>
    have hperform := hold_run (client.perform c) s.now s.world
    rw [← carryOut_eq] at hperform
    obtain ⟨turns, hperform⟩ := hperform
    obtain ⟨turns', hrest⟩ := ih ((device client).carryOut c s.now s.world).1
      { s with
        now := ((device client).carryOut c s.now s.world).2.1
        world := ((device client).carryOut c s.now s.world).2.2 }
    exact ⟨turns ++ turns', Conversation.run_bind_iff.mpr ⟨turns, _, _, turns', rfl, hperform, hrest⟩⟩

end

/-- Over a network every call of a program, also of tasks that interleave, is a conversation of the
client. -/
theorem device_serves (client : Client) :
    (device client).Serves client.cloud (fun _ => ()) fun c wake waiting =>
      ∀ reply last, waiting.ComesTo wake reply last → client.cloud c () reply () := by
  constructor
  · intro c now n
    have hcomes (reply : c.Reply) (last : Nat)
        (h : (converse now n (client.perform c)).1.ComesTo now reply last) :
        client.cloud c () reply () := by
      obtain ⟨turns, hrun⟩ := converse_comesTo h
      exact ⟨now, turns, last, hrun⟩
    simp only [device]
    cases hc : (converse now n (client.perform c)).1 with
    | finished reply => exact hcomes reply now (by rw [hc]; exact ⟨rfl, rfl⟩)
    | paused moment again =>
      refine ⟨rfl, fun reply last h => hcomes reply last ?_⟩
      rw [hc]
      exact h
  · intro c waiting now n hgoesOn
    have hcomes (reply : c.Reply) (last : Nat)
        (h : (wake now n waiting).1.ComesTo now reply last) : client.cloud c () reply () :=
      hgoesOn reply last (wake_comesTo h)
    simp only [device]
    cases hw : (wake now n waiting).1 with
    | finished reply => exact hcomes reply now (by rw [hw]; exact ⟨rfl, rfl⟩)
    | paused moment again =>
      refine ⟨rfl, fun reply last h => hcomes reply last ?_⟩
      rw [hw]
      exact h

end Network
end NodeGroups
