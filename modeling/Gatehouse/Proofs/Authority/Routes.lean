import Gatehouse.Authority.Server
import Gatehouse.Proofs.Authority.Calls

namespace Gatehouse.Authority

open Surroundings (Same)
open Http (Request Response)

variable {a : Authority} {r : Request} {o : Operation} {s s' : Surroundings} {x : Session}

theorem route_operation (hp : r.target.path = o.path) :
    a.route r = if a.serves o then a.call o r else pure (some ⟨404, [], ""⟩) := by
  have hc : o.path ≠ "/set-cookie" := by cases o <;> decide
  have hl : o.path ≠ "/logout" := by cases o <;> decide
  unfold route
  split
  · next h => exact absurd (hp.symm.trans h) hc
  · next h => exact absurd (hp.symm.trans h) hl
  · rw [hp, Operation.ofPath?_path]

theorem serve_snd (r : Request) (s : Surroundings) : (a.serve r s).2 = (a.route r s).2 := rfl

theorem status_serve (r : Request) (s : Surroundings) :
    (a.serve r s).1.map Response.status = (a.route r s).1.map Response.status := by
  rw [serve, Deed.bind_apply]
  split
  · show ((a.route r s).1.map Response.bodiless).map Response.status = _
    rw [Option.map_map]
    rfl
  · rfl

/-- The header fields that a client gets; none without a response. -/
def headers (a : Authority) (r : Request) (s : Surroundings) : List (String × String) :=
  ((a.serve r s).1.map Response.headers).getD []

theorem headers_of_serve {response : Response} (h : (a.serve r s).1 = some response) :
    a.headers r s = response.headers := by
  rw [headers, h]
  rfl

theorem serve_of_post (hm : r.method = "POST") (s : Surroundings) :
    a.serve r s = a.route r s := by
  have hh : r.method ≠ "HEAD" := by rw [hm]; decide
  rw [serve, Deed.bind_apply, if_neg hh]
  rfl

theorem serve_of_page {d : Deed Response} (hm : r.method = "GET") (hr : a.route r = page r d)
    (s : Surroundings) : a.serve r s = (some (d s).1, (d s).2) := by
  have hh : r.method ≠ "HEAD" := by rw [hm]; decide
  rw [serve, Deed.bind_apply, if_neg hh, hr, page, if_pos (.inl hm)]
  rfl

theorem serve_of_permit (hp : r.target.path = o.path) (ho : a.serves o) (hm : r.method = "POST")
    (hx : a.guard.permit o (.ofRequest r) s = (.ok x, s')) : a.serve r s = a.perform o x r s' := by
  rw [serve_of_post hm, route_operation hp, if_pos ho, call, Deed.bind_apply, hx]
  simp only [hm, if_true]
  rfl

theorem respondTo_of_ok {β : Type} {d : Json.Decoder β} {f : β → Call (Option Json.Value)} {b : β}
    (hb : readBody r d = .ok b) : respondTo r d f = respond (f b) := by
  rw [respondTo, hb]

def responseTo : Except Status (Option Json.Value) → Option Response
  | .ok v => v.map (.json 200)
  | .error e => some e.response

theorem status_response (e : Status) : e.response.status ≠ 200 := by
  show e.code.httpStatus ≠ 200
  cases e.code <;> decide

theorem respond_apply (c : Call (Option Json.Value)) (s : Surroundings) :
    respond c s = (responseTo (c.run s).1, (c.run s).2) := by
  rw [respond, Deed.bind_apply]
  rcases c.run s with ⟨_ | _, _⟩ <;> rfl

theorem respondTo_map {β γ : Type} {d : Json.Decoder β} {f : β → Call γ}
    {w : γ → Option Json.Value} {b : β} (hb : readBody r d = .ok b) (s : Surroundings) :
    respondTo r d (fun b ↦ do return w (← f b)) s =
      (responseTo (((f b).run s).1.map w), ((f b).run s).2) := by
  rw [respondTo_of_ok hb, respond_apply, Call.run_bind]
  rcases (f b).run s with ⟨_ | _, _⟩ <;> rfl

theorem call_of_rejection {e : Rejection} (hx : (a.guard.permit o (.ofRequest r) s).1 = .error e) :
    (a.call o r s).2.database.committed = s.database.committed := by
  have hs := Guard.permit_same a.guard o (.ofRequest r) s
  rw [call, Deed.bind_apply]
  rcases hr : a.guard.permit o (.ofRequest r) s with ⟨e' | x, s'⟩
  · rw [hr] at hs
    exact hs.committed
  · rw [hr] at hx
    cases hx

theorem call_of_other_method (hm : r.method ≠ "POST") (s : Surroundings) :
    (a.call o r s).2.database.committed = s.database.committed := by
  have hs := Guard.permit_same a.guard o (.ofRequest r) s
  rw [call, Deed.bind_apply]
  rcases hr : a.guard.permit o (.ofRequest r) s with ⟨e | x, s'⟩
  · rw [hr] at hs
    exact hs.committed
  · rw [hr] at hs
    simp only [hm, if_false]
    exact hs.committed

theorem posted_of_status (hp : r.target.path = o.path)
    (hx : (a.guard.permit o (.ofRequest r) s).1 = .ok x)
    (h : (a.serve r s).1.map Response.status = some 200) :
    a.serves o ∧ r.method = "POST" := by
  rw [status_serve, route_operation hp] at h
  split at h
  · by_cases hm : r.method = "POST"
    · exact ⟨by assumption, hm⟩
    · rw [call, Deed.bind_apply] at h
      rcases hr : a.guard.permit o (.ofRequest r) s with ⟨y, s'⟩
      rw [hr] at hx h
      dsimp only at hx
      subst hx
      simp only [hm, if_false] at h
      cases h
  · cases h

theorem serve_of_rejection {e : Rejection} (hp : r.target.path = o.path)
    (hx : (a.guard.permit o (.ofRequest r) s).1 = .error e) :
    (a.serve r s).2.database.committed = s.database.committed := by
  rw [serve_snd, route_operation hp]
  split
  · exact call_of_rejection hx
  · rfl

end Gatehouse.Authority
