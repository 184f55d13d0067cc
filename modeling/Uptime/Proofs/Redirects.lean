import Uptime.Proofs.ProbeOutcomes
/-! Redirects and the switch from `HEAD` to `GET`. A check is a walk of requests; one
request either stops it or moves it on (`move`, `walk_succ`), by a redirect counted
against the limit or by the one switch to `GET`. Each move spends the walk's allowance of
further requests, so a check makes at most the limit plus two requests and more fuel
changes nothing. Along the way the trail of a walk is kept (`Trail`): redirects are
counted, the methods are `HEAD`s then `GET`s, and each request leads to the next by a
`Hop`. A walk stops by the redirect past the limit exactly when it is the one after the
limit (or after none, for a negative limit); otherwise on the answer to a response that
is no redirect, or on a failure (`Stop`, `run_follows_redirects`). A success therefore
counts the redirects met, at most the limit when it is not negative; with a negative
limit a success counts none, one more than the limit
(`negative_limit_success_exceeds_it`). -/

namespace Uptime.Probe

open Uptime.Http

def Walk.method (w : Walk) : String := if w.useHead then "HEAD" else "GET"

def tooManyRedirects (cfg : Config) : Failed :=
  { totalMs := 0, error := "Too many redirects (max " ++ toString cfg.maxRedirects ++ ")" }

/-- Where one request takes a walk. -/
inductive Move where
  /-- the request `req` was made and the walk goes on from `w` -/
  | next (req : Request) (w : Walk)
  /-- the requests `reqs` were made and the walk ends with `res` -/
  | stop (reqs : List Request) (res : Except Failure Outcome)

/-- One request of a walk, as `walk` makes it. -/
def move (send : Request → Except Failure Response) (cfg : Config) (w : Walk) : Move :=
  match requestTarget w.url with
  | .error f => .stop [] (caught cfg f)
  | .ok url =>
    let req : Request := ⟨w.method, url⟩
    match send req with
    | .error f => .stop [req] (caught cfg f)
    | .ok resp =>
      let location := (resp.headers.get? "location").getD ""
      if isRedirectCode resp.status && !location.isEmpty then
        if ((w.redirects + 1 : Nat) : Int) > cfg.maxRedirects then
          .stop [req] (.ok (.failure (tooManyRedirects cfg)))
        else
          match redirectTarget url location with
          | .error f => .stop [req] (caught cfg f)
          | .ok next => .next req { w with url := next, redirects := w.redirects + 1 }
      else if w.useHead && resp.status = 405 then .next req { w with useHead := false }
      else if w.useHead && isSuccess resp.status && cfg.captureBody then
        .next req { w with useHead := false }
      else .stop [req] (finish resp w.method w.redirects)

theorem walk_succ (send : Request → Except Failure Response) (cfg : Config) (fuel : Nat)
    (w : Walk) (calls : List Request) :
    walk send cfg (fuel + 1) w calls = match move send cfg w with
      | .next req w' => walk send cfg fuel w' (calls ++ [req])
      | .stop reqs res => (calls ++ reqs, res) := by
  rw [walk.eq_2]
  unfold move
  rcases requestTarget w.url with f | url
  · simp only [List.append_nil]
  · simp only [Walk.method]
    rcases send ⟨if w.useHead then "HEAD" else "GET", url⟩ with f | resp
    · rfl
    · simp only
      split
      · split
        · rfl
        · rcases redirectTarget url ((resp.headers.get? "location").getD "") with f | next <;> rfl
      · split
        · rfl
        · split <;> rfl


variable {send : Request → Except Failure Response} {cfg : Config}

/-- The location the response to a request sends the check on to: present when the
response has a redirect status and a `location` that is not empty. -/
def redirectOf (send : Request → Except Failure Response) (req : Request) : Option String :=
  match send req with
  | .ok resp =>
    let location := (resp.headers.get? "location").getD ""
    if isRedirectCode resp.status && !location.isEmpty then some location else none
  | .error _ => none

theorem redirectOf_of_ok {req : Request} {resp : Response} (h : send req = .ok resp) :
    redirectOf send req =
      if isRedirectCode resp.status && !((resp.headers.get? "location").getD "").isEmpty then
        some ((resp.headers.get? "location").getD "") else none := by
  simp only [redirectOf, h]

theorem redirectOf_of_error {req : Request} {f : Failure} (h : send req = .error f) :
    redirectOf send req = none := by
  simp only [redirectOf, h]

/-- A move that goes on made its request to where the walk stood, and either followed a
redirect within the limit or switched a `HEAD` to `GET` after a 405 or a wanted 2xx. -/
theorem move_next {w w' : Walk} {req : Request} (h : move send cfg w = .next req w') :
    requestTarget w.url = .ok req.url ∧ req.method = w.method ∧
    ((∃ loc, redirectOf send req = some loc ∧ redirectTarget req.url loc = .ok w'.url ∧
        w'.redirects = w.redirects + 1 ∧ ((w.redirects + 1 : Nat) : Int) ≤ cfg.maxRedirects ∧
        w'.useHead = w.useHead) ∨
     (redirectOf send req = none ∧ w.useHead = true ∧ w' = { w with useHead := false } ∧
        ∃ resp, send req = .ok resp ∧
          (resp.status = 405 ∨ isSuccess resp.status = true ∧ cfg.captureBody = true))) := by
  unfold move at h
  rcases ht : requestTarget w.url with f | url <;> simp only [ht] at h
  · cases h
  rcases hs : send ⟨w.method, url⟩ with f | resp <;> simp only [hs] at h
  · cases h
  have hr := redirectOf_of_ok hs
  split at h
  · rename_i hredir
    split at h
    · cases h
    · rename_i hcap
      rcases hj : redirectTarget url ((resp.headers.get? "location").getD "") with f | next <;>
        simp only [hj] at h
      · cases h
      · cases h
        refine ⟨rfl, rfl, .inl ⟨_, by rw [hr, if_pos hredir], hj, rfl, by omega, rfl⟩⟩
  · rename_i hredir
    have hnone : redirectOf send ⟨w.method, url⟩ = none := by rw [hr, if_neg hredir]
    split at h
    · rename_i h405
      cases h
      simp only [Bool.and_eq_true, decide_eq_true_eq] at h405
      exact ⟨rfl, rfl, .inr ⟨hnone, h405.1, rfl, resp, hs, .inl h405.2⟩⟩
    · split at h
      · rename_i h2xx
        cases h
        simp only [Bool.and_eq_true] at h2xx
        exact ⟨rfl, rfl, .inr ⟨hnone, h2xx.1.1, rfl, resp, hs, .inr ⟨h2xx.1.2, h2xx.2⟩⟩⟩
      · cases h


/-- A move that stops made no request, the address failing, or one request, whose
exchange failed, or whose redirect passed the limit or could not be resolved, or whose
response is answered. -/
theorem move_stop {w : Walk} {reqs : List Request} {res : Except Failure Outcome}
    (h : move send cfg w = .stop reqs res) :
    (reqs = [] ∧ ∃ f, requestTarget w.url = .error f ∧ res = caught cfg f) ∨
    ∃ req, reqs = [req] ∧ requestTarget w.url = .ok req.url ∧ req.method = w.method ∧
      ((∃ f, send req = .error f ∧ res = caught cfg f) ∨
       ((∃ loc, redirectOf send req = some loc) ∧ cfg.maxRedirects < ((w.redirects + 1 : Nat) : Int) ∧
          res = .ok (.failure (tooManyRedirects cfg))) ∨
       (∃ loc f, redirectOf send req = some loc ∧ ((w.redirects + 1 : Nat) : Int) ≤ cfg.maxRedirects ∧
          redirectTarget req.url loc = .error f ∧ res = caught cfg f) ∨
       (∃ resp, send req = .ok resp ∧ redirectOf send req = none ∧
          res = finish resp req.method w.redirects)) := by
  unfold move at h
  rcases ht : requestTarget w.url with f | url <;> simp only [ht] at h
  · cases h
    exact .inl ⟨rfl, f, rfl, rfl⟩
  refine .inr ⟨⟨w.method, url⟩, ?_⟩
  rcases hs : send ⟨w.method, url⟩ with f | resp <;> simp only [hs] at h
  · cases h
    exact ⟨rfl, rfl, rfl, .inl ⟨f, rfl, rfl⟩⟩
  have hr := redirectOf_of_ok hs
  split at h
  · rename_i hredir
    have hsome : redirectOf send ⟨w.method, url⟩ = some ((resp.headers.get? "location").getD "") := by
      rw [hr, if_pos hredir]
    split at h
    · rename_i hcap
      cases h
      exact ⟨rfl, rfl, rfl, .inr (.inl ⟨⟨_, hsome⟩, hcap, rfl⟩)⟩
    · rename_i hcap
      rcases hj : redirectTarget url ((resp.headers.get? "location").getD "") with f | next <;>
        simp only [hj] at h
      · cases h
        exact ⟨rfl, rfl, rfl, .inr (.inr (.inl ⟨_, f, hsome, by omega, hj, rfl⟩))⟩
      · cases h
  · rename_i hredir
    have hnone : redirectOf send ⟨w.method, url⟩ = none := by rw [hr, if_neg hredir]
    split at h
    · cases h
    · split at h
      · cases h
      · cases h
        exact ⟨rfl, rfl, rfl, .inr (.inr (.inr ⟨resp, rfl, hnone, rfl⟩))⟩


/-- The requests a walk may still make after its next one: one for each redirect it may
still follow, and one for the switch to `GET` while that has not happened. -/
def Walk.allowance (cfg : Config) (w : Walk) : Nat :=
  (cfg.maxRedirects.toNat - w.redirects) + (if w.useHead then 1 else 0)

theorem allowance_lt_of_move {w w' : Walk} {req : Request} (h : move send cfg w = .next req w') :
    w'.allowance cfg < w.allowance cfg := by
  obtain ⟨-, -, ⟨loc, -, -, hr, hcap, hh⟩ | ⟨-, hh, rfl, -⟩⟩ := move_next h
  · simp only [Walk.allowance, hr, hh]
    omega
  · simp [Walk.allowance, hh]

theorem walk_add_fuel {w : Walk} {fuel : Nat} (hf : w.allowance cfg < fuel) (k : Nat)
    (calls : List Request) : walk send cfg (fuel + k) w calls = walk send cfg fuel w calls := by
  induction fuel generalizing w calls with
  | zero => omega
  | succ fuel ih =>
    rw [show fuel + 1 + k = fuel + k + 1 by omega, walk_succ, walk_succ]
    rcases hm : move send cfg w with ⟨req, w'⟩ | ⟨reqs, res⟩
    · exact ih (by have := allowance_lt_of_move hm; omega) _
    · rfl

theorem eq_of_bind_success {x : Except Failure Int} {f : Int → Success} {s : Success}
    (h : (x >>= fun v => pure (Outcome.success (f v))) = .ok (.success s)) : ∃ v, s = f v := by
  rcases x with e | v
  · cases h
  · cases h
    exact ⟨v, rfl⟩

theorem answer_redirects {resp : Response} {method : String} {k : Nat} {ct : Option String}
    {content : String} {codes : List Nat} {parsed : Json.Value} {s : Success}
    (h : answer resp method k ct content codes parsed = .ok (.success s)) : s.redirects = k := by
  unfold answer at h
  split at h
  · cases h
  · split at h <;> split at h <;>
      obtain ⟨v, rfl⟩ := eq_of_bind_success h <;> rfl

theorem finish_redirects {resp : Response} {method : String} {k : Nat} {s : Success}
    (h : finish resp method k = .ok (.success s)) : s.redirects = k := by
  unfold finish at h
  simp only [Except.mapError, bind, Except.bind] at h
  split at h
  · cases h
  split at h
  · split at h
    · split at h
      · cases h
      · cases h
    · exact answer_redirects h
  · exact answer_redirects h

theorem caught_ne_success (f : Failure) (s : Success) : caught cfg f ≠ .ok (.success s) := by
  rcases caught_cases cfg f with ⟨g, hg, -⟩ | ⟨hg, -⟩ | ⟨e, -, hg⟩ <;> rw [hg] <;> simp


def redirectCount (send : Request → Except Failure Response) (calls : List Request) : Nat :=
  calls.countP fun req => (redirectOf send req).isSome

theorem redirectCount_append_singleton (send : Request → Except Failure Response)
    (calls : List Request) (req : Request) :
    redirectCount send (calls ++ [req]) =
      redirectCount send calls + if (redirectOf send req).isSome then 1 else 0 := by
  simp [redirectCount, List.countP_append]

/-- How a check goes from one request to the next: a redirect is followed with the same
method to its location resolved against the address that answered, and a `HEAD`
answered with 405, or with 2xx when the body is wanted, is made again as `GET` to the
same address. -/
def Hop (send : Request → Except Failure Response) (cfg : Config) (req next : Request) : Prop :=
  (∃ loc target, redirectOf send req = some loc ∧ redirectTarget req.url loc = .ok target ∧
      requestTarget target = .ok next.url ∧ next.method = req.method) ∨
  (redirectOf send req = none ∧ req.method = "HEAD" ∧ next = ⟨"GET", req.url⟩ ∧
      ∃ resp, send req = .ok resp ∧
        (resp.status = 405 ∨ isSuccess resp.status = true ∧ cfg.captureBody = true))

/-- Methods that are some `HEAD`s and then some `GET`s, at least one `HEAD` unless there
are none at all. -/
def HeadsThenGets (methods : List String) : Prop :=
  ∃ h g, methods = List.replicate h "HEAD" ++ List.replicate g "GET" ∧ (methods ≠ [] → 0 < h)

/-- What holds of a walk at `w` that has made the requests `calls`: it counted each
redirect it met, none past the limit; it switched to `GET` at most once, after a `HEAD`;
each request led to the next by a `Hop`, and so does the last to the one `w` makes next. -/
structure Trail (send : Request → Except Failure Response) (cfg : Config) (w : Walk)
    (calls : List Request) : Prop where
  count : redirectCount send calls = w.redirects
  capped : w.redirects ≤ cfg.maxRedirects.toNat
  shape : ∃ h g, calls.map Request.method = List.replicate h "HEAD" ++ List.replicate g "GET" ∧
    (w.useHead = true → g = 0) ∧ (w.useHead = false → 0 < h)
  chain : calls.IsChain (Hop send cfg)
  pending : ∀ last ∈ calls.getLast?, ∀ u, requestTarget w.url = .ok u →
    Hop send cfg last ⟨w.method, u⟩

namespace Trail

theorem start (send : Request → Except Failure Response) (cfg : Config) (url : String) :
    Trail send cfg ⟨url, 0, true⟩ [] :=
  ⟨rfl, Nat.zero_le _, ⟨0, 0, rfl, fun _ => rfl, by simp⟩, .nil, by simp⟩

variable {w : Walk} {calls : List Request} {req : Request}

/-- The methods after one more request, made as the walk's state says: at least one
`HEAD` now, and no `GET` while the walk still sends `HEAD`. -/
theorem shape_append (ht : Trail send cfg w calls) (hm : req.method = w.method) :
    ∃ h g, (calls ++ [req]).map Request.method =
      List.replicate h "HEAD" ++ List.replicate g "GET" ∧ (w.useHead = true → g = 0) ∧ 0 < h := by
  obtain ⟨h, g, hs, hhead, hget⟩ := ht.shape
  cases hu : w.useHead
  · refine ⟨h, g + 1, ?_, by simp, hget hu⟩
    simp [hs, hm, Walk.method, hu, List.replicate_succ']
  · obtain rfl := hhead hu
    refine ⟨h + 1, 0, ?_, fun _ => rfl, Nat.succ_pos h⟩
    simp [hs, hm, Walk.method, hu, List.replicate_succ']

theorem chain_append (ht : Trail send cfg w calls) (hu : requestTarget w.url = .ok req.url)
    (hm : req.method = w.method) : (calls ++ [req]).IsChain (Hop send cfg) := by
  refine ht.chain.append (.singleton req) fun last hlast r hr => ?_
  have hr' : r = req := by simpa using hr.symm
  rw [hr', show req = ⟨w.method, req.url⟩ by rw [← hm]]
  exact ht.pending last hlast req.url hu

theorem heads_then_gets (ht : Trail send cfg w calls) :
    HeadsThenGets (calls.map Request.method) := by
  obtain ⟨h, g, hs, hhead, hget⟩ := ht.shape
  refine ⟨h, g, hs, fun hne => ?_⟩
  cases hu : w.useHead
  · exact hget hu
  · -- no `GET` yet, so the requests are `HEAD`s, and there are some
    obtain rfl := hhead hu
    rw [hs] at hne
    exact Nat.pos_of_ne_zero fun h0 => hne (by simp [h0])

theorem next {w' : Walk} (ht : Trail send cfg w calls) (hmove : move send cfg w = .next req w') :
    Trail send cfg w' (calls ++ [req]) := by
  obtain ⟨hu, hm, hstep⟩ := move_next hmove
  obtain ⟨h, g, hs, hhead, hpos⟩ := shape_append ht hm
  rcases hstep with ⟨loc, hloc, hjoin, hr, hcap, hh⟩ | ⟨hnone, hhd, rfl, resp, hsend, hsw⟩
  · -- a redirect: one more counted, within the limit, the method kept
    refine ⟨?_, by omega, ⟨h, g, hs, fun hw => hhead (hh ▸ hw), fun _ => hpos⟩,
      chain_append ht hu hm, ?_⟩
    · simp [redirectCount_append_singleton, ht.count, hloc, hr]
    · intro last hlast u hu'
      have hl : last = req := by simpa using hlast.symm
      subst hl
      refine .inl ⟨loc, w'.url, hloc, hjoin, hu', ?_⟩
      simp [Walk.method, hh, hm]
  · -- the switch to `GET`, at the same address
    refine ⟨?_, ht.capped, ⟨h, g, hs, by simp, fun _ => hpos⟩, chain_append ht hu hm, ?_⟩
    · simp [redirectCount_append_singleton, ht.count, hnone]
    · intro last hlast u hu'
      have hl : last = req := by simpa using hlast.symm
      have hu'' : u = req.url := by rw [hu] at hu'; exact (Except.ok.inj hu').symm
      subst hl
      rw [hu'']
      exact .inr ⟨hnone, by simp [hm, Walk.method, hhd], rfl, resp, hsend, hsw⟩

end Trail


/-- How a walk that made the requests `calls` ended with `res`. The count of redirects met
tells the ways apart: the redirect past the limit is the `M + 1`-th, `M` the limit or
zero if that is negative, and a walk that ends otherwise met at most `M`. -/
inductive Stop (send : Request → Except Failure Response) (cfg : Config) (calls : List Request)
    (res : Except Failure Outcome) : Prop
  /-- a redirect past the limit -/
  | capped : redirectCount send calls = cfg.maxRedirects.toNat + 1 →
      res = .ok (.failure (tooManyRedirects cfg)) → Stop send cfg calls res
  /-- the answer to the last response, which is no redirect -/
  | answered (req : Request) (resp : Response) : calls.getLast? = some req →
      send req = .ok resp → redirectOf send req = none →
      redirectCount send calls ≤ cfg.maxRedirects.toNat →
      res = finish resp req.method (redirectCount send calls) → Stop send cfg calls res
  /-- an exchange or an address that failed -/
  | failed (f : Failure) : redirectCount send calls ≤ cfg.maxRedirects.toNat →
      res = caught cfg f → Stop send cfg calls res

/-- A walk given more fuel than it may make requests keeps the requests made before, makes
at most the requests it is allowed and one more, goes from `HEAD`s to `GET`s by hops, and
stops in one of the ways `Stop` lists. -/
theorem walk_stops {fuel : Nat} {w : Walk} {calls : List Request} (ht : Trail send cfg w calls)
    (hf : w.allowance cfg < fuel) :
    calls <+: (walk send cfg fuel w calls).1 ∧
    (walk send cfg fuel w calls).1.length ≤ calls.length + w.allowance cfg + 1 ∧
    HeadsThenGets ((walk send cfg fuel w calls).1.map Request.method) ∧
    (walk send cfg fuel w calls).1.IsChain (Hop send cfg) ∧
    Stop send cfg (walk send cfg fuel w calls).1 (walk send cfg fuel w calls).2 := by
  induction fuel generalizing w calls with
  | zero => omega
  | succ fuel ih =>
    rw [walk_succ]
    rcases hm : move send cfg w with ⟨req, w'⟩ | ⟨reqs, res⟩
    · -- the walk goes on: its trail carries over, with one request fewer allowed
      dsimp only
      have hlt := allowance_lt_of_move hm
      obtain ⟨hpre, hlen, hshape, hchain, hstop⟩ := ih (ht.next hm) (by omega)
      refine ⟨(List.prefix_append calls [req]).trans hpre, ?_, hshape, hchain, hstop⟩
      simp only [List.length_append, List.length_singleton] at hlen
      omega
    · -- the walk stops here, after the request it made if any
      dsimp only
      rcases move_stop hm with ⟨rfl, f, -, rfl⟩ | ⟨req, rfl, hu, hmeth, hend⟩
      · simp only [List.append_nil]
        exact ⟨List.prefix_refl _, by omega, ht.heads_then_gets, ht.chain,
          .failed f (ht.count ▸ ht.capped) rfl⟩
      have hcount := redirectCount_append_singleton send calls req
      obtain ⟨h, g, hs, -, hpos⟩ := ht.shape_append hmeth
      refine ⟨List.prefix_append _ _, by simp, ⟨h, g, hs, fun _ => hpos⟩,
        ht.chain_append hu hmeth, ?_⟩
      have hcap := ht.capped
      rcases hend with ⟨f, hsend, rfl⟩ | ⟨⟨loc, hloc⟩, hover, rfl⟩ |
          ⟨loc, f, hloc, hwithin, -, rfl⟩ | ⟨resp, hsend, hnone, rfl⟩
      · exact .failed f (by simp [hcount, redirectOf_of_error hsend, ht.count, hcap]) rfl
      · -- the redirect that passes the limit is the one after the `M`-th
        refine .capped ?_ rfl
        simp only [hcount, hloc, ht.count, Option.isSome_some, if_true]
        omega
      · exact .failed f (by simp only [hcount, hloc, ht.count, Option.isSome_some, if_true]; omega) rfl
      · refine .answered req resp (by simp) hsend hnone
          (by simp [hcount, hnone, ht.count, hcap]) ?_
        simp [hcount, hnone, ht.count, hmeth]


theorem allowance_start (cfg : Config) (url : String) :
    Walk.allowance cfg ⟨url, 0, true⟩ = cfg.maxRedirects.toNat + 1 := by
  simp [Walk.allowance]

/-- The first request of a check is a `HEAD` to the normalized address, and there is none
when that address cannot be sent to. -/
theorem run_head? (url : String) :
    (run send cfg url).1.head? =
      (requestTarget (normalizeUrl url)).toOption.map (⟨"HEAD", ·⟩) := by
  unfold run
  rw [show cfg.maxRedirects.toNat + 3 = (cfg.maxRedirects.toNat + 2) + 1 by omega, walk_succ]
  rcases hm : move send cfg ⟨normalizeUrl url, 0, true⟩ with ⟨req, w'⟩ | ⟨reqs, res⟩
  · -- the check goes on from its first request, which stays first
    obtain ⟨hu, hmeth, -⟩ := move_next hm
    have hlt : w'.allowance cfg < cfg.maxRedirects.toNat + 2 := by
      have := allowance_lt_of_move hm
      rw [allowance_start] at this
      omega
    obtain ⟨⟨rest, hrest⟩, -⟩ := walk_stops ((Trail.start send cfg _).next hm) hlt
    dsimp only
    rw [← hrest, hu]
    obtain ⟨m, u⟩ := req
    simp only [Walk.method, if_true] at hmeth
    simp [hmeth, Except.toOption]
  · dsimp only
    rcases move_stop hm with ⟨rfl, f, hu, -⟩ | ⟨req, rfl, hu, hmeth, -⟩
    · simp [hu, Except.toOption]
    · cases req
      simp_all [Walk.method, Except.toOption]

/-- A check ends within the limit on redirects plus two requests: the requests are some
`HEAD`s, the first to the normalized address, then some `GET`s; each after the first
follows a redirect from the one before or repeats a `HEAD` as `GET`. A success counts the
redirects met, at most the limit (or none, when the limit is negative), and the check
stops with too many redirects exactly at the redirect after those. More fuel than the
walk was given changes nothing. -/
theorem run_follows_redirects (send : Request → Except Failure Response) (cfg : Config)
    (url : String) :
    (∀ fuel, cfg.maxRedirects.toNat + 2 ≤ fuel →
      walk send cfg fuel ⟨normalizeUrl url, 0, true⟩ [] = run send cfg url) ∧
    (run send cfg url).1.length ≤ cfg.maxRedirects.toNat + 2 ∧
    (run send cfg url).1.head? = (requestTarget (normalizeUrl url)).toOption.map (⟨"HEAD", ·⟩) ∧
    HeadsThenGets ((run send cfg url).1.map Request.method) ∧
    (run send cfg url).1.IsChain (Hop send cfg) ∧
    (∀ s, (run send cfg url).2 = .ok (.success s) →
      s.redirects = redirectCount send (run send cfg url).1 ∧
      redirectCount send (run send cfg url).1 ≤ cfg.maxRedirects.toNat) ∧
    Stop send cfg (run send cfg url).1 (run send cfg url).2 := by
  have hf : Walk.allowance cfg ⟨normalizeUrl url, 0, true⟩ < cfg.maxRedirects.toNat + 2 := by
    rw [allowance_start]
    omega
  have hrun : run send cfg url =
      walk send cfg (cfg.maxRedirects.toNat + 2) ⟨normalizeUrl url, 0, true⟩ [] := by
    rw [run, show cfg.maxRedirects.toNat + 3 = cfg.maxRedirects.toNat + 2 + 1 by omega]
    exact walk_add_fuel hf 1 []
  obtain ⟨-, hlen, hshape, hchain, hstop⟩ := walk_stops (Trail.start send cfg _) hf
  rw [← hrun, allowance_start] at hlen
  rw [← hrun] at hshape hchain hstop
  refine ⟨fun fuel hfuel => ?_, by simpa using hlen, run_head? url, hshape, hchain, ?_, hstop⟩
  · obtain ⟨k, rfl⟩ := Nat.exists_eq_add_of_le hfuel
    rw [hrun, walk_add_fuel hf k []]
  · -- only the answer to the last response is a success, and it counts what was met
    intro s hs
    cases hstop with
    | capped _ hres => rw [hres] at hs; cases hs
    | answered req resp _ _ _ hle hres =>
      rw [hres] at hs
      exact ⟨finish_redirects hs, hle⟩
    | failed f _ hres => exact absurd (hres ▸ hs) (caught_ne_success f s)

def emptyOkSite (_ : Request) : Except Failure Response := .ok ⟨200, [], []⟩

set_option maxRecDepth 100000 in
/-- With a negative limit, a check that meets no redirect succeeds, and counts more
redirects than the limit. -/
theorem negative_limit_success_exceeds_it :
    ∃ s, (run emptyOkSite { maxRedirects := -1 } "https://example.com").2 = .ok (.success s) ∧
      (-1 : Int) < s.redirects :=
  ⟨{ status := 200, ttfbMs := 0, totalMs := 0, redirects := 0, responseBytes := 0,
     content := "" }, by with_unfolding_all rfl, by decide⟩

end Uptime.Probe
