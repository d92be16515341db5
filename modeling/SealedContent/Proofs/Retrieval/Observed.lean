import SealedContent.Retrieval.Gateway

/-!
What a gateway is asked. Under observation the far side of requests answers as before, and its state
keeps, beside its own, every request that was sent. A gateway is only ever asked for something, also where
a reply points elsewhere.
-/

namespace SealedContent

variable {σ : Type}

namespace Web

def Transport.observed (transport : Transport σ) : Transport (σ × List Request) :=
  fun request state =>
    let reply := transport request state.1
    (reply.1, reply.2, state.2 ++ [request])

/-- Between two moments nothing but requests for something was sent. -/
def OnlyGets (before after : List Request) : Prop :=
  ∃ asked, after = before ++ asked ∧ ∀ request ∈ asked, request.method = "GET"

namespace OnlyGets

theorem refl (sent : List Request) : OnlyGets sent sent :=
  ⟨[], (List.append_nil sent).symm, List.forall_mem_nil _⟩

theorem cons {before after : List Request} {request : Request} (get : request.method = "GET")
    (later : OnlyGets (before ++ [request]) after) : OnlyGets before after := by
  obtain ⟨asked, rfl, gets⟩ := later
  refine ⟨request :: asked, by rw [List.append_assoc, List.singleton_append], ?_⟩
  exact List.forall_mem_cons.mpr ⟨get, gets⟩

end OnlyGets

theorem Request.redirected_get {request : Request} (get : request.method = "GET") (status : Nat)
    (url : Url) : (request.redirected status url).method = "GET" := by
  rw [redirected]
  split
  · exact get
  · rfl

theorem Transport.log_of_observed {transport : Transport σ} {request : Request}
    {state after : σ × List Request} {reply : Option Reply}
    (replied : transport.observed request state = (reply, after)) :
    after.2 = state.2 ++ [request] :=
  congrArg (fun answer => answer.2.2) replied.symm

theorem Transport.follow_onlyGets (transport : Transport σ) (limit : Nat) {request : Request}
    (get : request.method = "GET") (state : σ × List Request) :
    OnlyGets state.2 (follow transport.observed limit request state).2.2 := by
  fun_induction follow transport.observed limit request state with
  | case1 limit request state after replied =>
      apply OnlyGets.cons get
      rw [← log_of_observed replied]
      exact .refl _
  | case2 limit request state reply after replied final =>
      apply OnlyGets.cons get
      rw [← log_of_observed replied]
      exact .refl _
  | case3 request state reply after replied url next =>
      apply OnlyGets.cons get
      rw [← log_of_observed replied]
      exact .refl _
  | case4 request state reply after replied url next left induction =>
      apply OnlyGets.cons get
      rw [← log_of_observed replied]
      exact induction (Request.redirected_get get _ _)

end Web

namespace Retrieval.Gateway

open Web (OnlyGets Request Transport)

theorem fetchRecord_onlyGets (gateway : Gateway) (transport : Transport σ) (name : String)
    (state : σ × List Request) :
    OnlyGets state.2 (gateway.fetchRecord transport.observed name state).2.2 := by
  have fetched : OnlyGets state.2 (gateway.fetch transport.observed name state).2.2 := by
    rw [fetch]
    split
    · exact .refl _
    split
    · exact .refl _
    rename_i url _
    have asked := transport.follow_onlyGets Transport.redirectLimit
      (show (Request.get url).method = "GET" from rfl) state
    split <;> rename_i replied <;> rw [← congrArg Prod.snd replied] <;> exact asked
  rw [fetchRecord]
  split <;> rename_i after result <;> rw [result] at fetched <;> exact fetched

end Retrieval.Gateway

end SealedContent
