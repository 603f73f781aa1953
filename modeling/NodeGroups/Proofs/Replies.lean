import NodeGroups.Proofs.Operations
import NodeGroups.Proofs.Responses
import NodeGroups.Proofs.Turns
import NodeGroups.Simulation.Backend

namespace NodeGroups

namespace Client

open Response

variable (c : Client)

/-- A call that only reads is one command, and it fails where the command does. -/
theorem perform_read {call : Call} (h : call.isRead = true) :
    ∃ (α : Type) (command : String) (q : Query) (item : Json → Decode.Result α)
      (finish : Except Error α → call.Reply),
      c.perform call = (c.get command q item).bind (fun r => .done (finish r)) ∧
        ∀ e, finish (.error e) = call.refuse e none := by
  cases call with
  | listProjects => exact ⟨_, _, _, _, id, (Conversation.bind_done _).symm, fun e => rfl⟩
  | listProfiles r => exact ⟨_, _, _, _, id, (Conversation.bind_done _).symm, fun e => rfl⟩
  | listDetails r => exact ⟨_, _, _, _, id, (Conversation.bind_done _).symm, fun e => rfl⟩
  | listMachines r => exact ⟨_, _, _, _, id, (Conversation.bind_done _).symm, fun e => rfl⟩
  | getOffering id => exact ⟨_, _, _, _, _, rfl, fun e => rfl⟩
  | getZone id => exact ⟨_, _, _, _, _, rfl, fun e => rfl⟩
  | deploy r => cases h
  | tag r => cases h
  | destroy r => cases h

/-- A command always comes to its end, with one request, and is judged by the response to it. A call
that only reads fails on every response that reports an error. -/
theorem get_judged {α : Type} (command : String) (q : Query) (item : Json → Decode.Result α)
    (status : UInt16) (body : String) :
    (∀ now delay, ∃ result, (c.get command q item).Run now
      [⟨c.request command q, delay, .received status body⟩] result (now + delay)) ∧
    (∀ now turns result last, (c.get command q item).Run now turns result last →
      ∃ t, turns = [t] ∧
        (t.response = .received status body → Judged item status body result)) ∧
    ∀ call : Call, call.isRead = true → ∀ now turns reply last,
      (c.perform call).Run now turns reply last → ∃ t, turns = [t] ∧
        (t.response = .received status body → Faulty status body →
          ∃ e, reply = call.refuse e none) := by
  refine ⟨?_, ?_, ?_⟩
  · intro now delay
    exact ⟨_, get_run_iff.mpr ⟨delay, .received status body, rfl, rfl, rfl⟩⟩
  · intro now turns result last hrun
    obtain ⟨delay, response, rfl, rfl, rfl⟩ := get_run_iff.mp hrun
    refine ⟨_, rfl, ?_⟩
    intro hresponse
    simp only at hresponse
    rw [hresponse]
    exact decode_judged command item status body
  · intro call hread now turns reply last hrun
    obtain ⟨β, command', q', item', finish, hperform, hrefuse⟩ := c.perform_read hread
    rw [hperform] at hrun
    obtain ⟨first, result, middle, rest, rfl, hget, hrest⟩ := Conversation.run_bind_iff.mp hrun
    obtain ⟨delay, response, rfl, rfl, rfl⟩ := get_run_iff.mp hget
    obtain ⟨rfl, rfl, rfl⟩ := Conversation.run_done_iff.mp hrest
    refine ⟨_, rfl, ?_⟩
    intro hresponse hfaulty
    simp only at hresponse
    rw [hresponse]
    cases hresult : (received status body).decode command' item' with
    | ok v =>
      have hgives := (decode_eq_ok_iff command').mp hresult
      exact absurd hgives (hfaulty.not_gives v)
    | error e => exact ⟨e, hrefuse e⟩

/-- An error code under a status of success. -/
def denial : String :=
  "\x7b\"listvirtualmachinesresponse\":\x7b\"errorcode\":531,\"errortext\":\"denied\"\x7d\x7d"

theorem denial_refusal : Refusal 200 denial 531 "denied" := by
  have hparse : Json.parse? denial = some (.obj [("listvirtualmachinesresponse",
      .obj [("errorcode", .num (.int 531)), ("errortext", .str "denied")])]) := by
    with_unfolding_all rfl
  exact .coded ⟨_, hparse⟩ ⟨rfl, by decide⟩ (by decide) (.inl rfl)

/-- A listing of machines that is denied is an error, and not an empty list. -/
theorem get_denial :
    ∃ result turn, (nearby.get MachinesRequest.command .empty VirtualMachine.decodeAll).Run 0
      [turn] result 0 ∧ turn.response = .received 200 denial ∧
        result = .error (.api 531 "denied") := by
  obtain ⟨hruns, hjudged, -⟩ :=
    nearby.get_judged MachinesRequest.command .empty VirtualMachine.decodeAll 200 denial
  obtain ⟨result, hrun⟩ := hruns 0 0
  obtain ⟨turn, hturn, hresult⟩ := hjudged 0 _ result 0 hrun
  cases hturn
  exact ⟨result, _, hrun, rfl, ((hresult rfl).api 531 "denied").mpr denial_refusal⟩

end Client
end NodeGroups
