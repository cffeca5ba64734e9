import RemoteSigner.Proofs.Wire.Transparency
import RemoteSigner.Signer.Echo

/-!
# The echo signer is a service

An echo signer answers requests by itself.  A service answers the same way if its provider has the
certificate and the public key of the echo signer, gives digests back as signatures, and turns over
every bit to encrypt and to decrypt.  Then clients can not tell one from the other: the responses
are equal, the texts of errors included, and so are whole sessions.

## Main definitions

* `EchoSigner.provider`: the provider that does what an echo signer does

## Main results

* `EchoSigner.handle_provider`: the same response to every request
* `EchoSigner.serve_provider`: the same session on every transport
* `EchoSigner.serve_provider_recut`: the same session on streams that are cut in another way
* `EchoSigner.interchangeable`: all of these
-/

namespace RemoteSigner.EchoSigner

open Signer Wire

/-- The provider that does what an echo signer does. -/
def provider (signer : EchoSigner) : Provider Id where
  certificateChain := pure (.ok [signer.certificate])
  publicKey := pure (.ok signer.publicKey)
  sign digest _ := pure (.ok digest)
  encrypt data _ := pure (.ok (invert data))
  decrypt data _ := pure (.ok (invert data))

variable (signer : EchoSigner)

/-! ## Requests -/

/-- A digest is given back, unless there are options and it has not the length that they ask for.
Without options the length that is expected is the one that the digest has. -/
theorem handle_sign (id : UInt64) (args : SignArgs) :
    signer.handle (.current id (.sign args)) = signer.provider.respond id (.sign args) := by
  have current : ¬ (Request.current id (.sign args)).version ≠ protocolVersion :=
    not_not_intro rfl
  rw [handle, if_neg current, Provider.respond, Provider.direct]
  cases opts : args.effectiveOpts with
  | none =>
    simp only [Request.current, opts, Option.map_none, Option.getD_none, if_true]
    rfl
  | some effective =>
    by_cases len : args.digest.length = effective.algorithm.size
    · simp only [Request.current, opts, Option.map_some, Option.getD_some, len, if_true]
      rfl
    · simp only [Request.current, opts, Option.map_some, Option.getD_some, len, if_false]
      rfl

/-- An echo signer answers a call as its provider would. -/
theorem handle_current (id : UInt64) (call : Call) :
    signer.handle (.current id call) = signer.provider.respond id call := by
  cases call with
  | sign args => exact signer.handle_sign id args
  | _ => rfl

/-- The service gives the same response to every request. -/
theorem handle_provider (request : Request) :
    (signer.provider.handle request).run = signer.handle request := by
  rcases request with ⟨id, version, call⟩
  by_cases current : version = protocolVersion
  · subst current
    exact (signer.provider.handle_eq id call).trans (signer.handle_current id call).symm
  · rw [Provider.handle, handle, if_pos current, if_pos current]
    rfl

/-! ## Sessions -/

/-- The service goes through the same session on every transport. -/
theorem serve_provider (t : Transport) :
    (signer.provider.serve t).run =
      ((signer.serve t).1.mapError .wire, (signer.serve t).2) := by
  have same : signer.provider.handle = fun request => pure (signer.handle request) :=
    funext signer.handle_provider
  rw [Provider.serve, same]
  rfl

/-- It does not matter how the requests are cut. -/
theorem serve_provider_recut {t t' : Transport} {octets : Bytes}
    (delivers : t.source.Delivers octets) (delivers' : t'.source.Delivers octets)
    (sink : t'.sink = t.sink) :
    ((signer.provider.serve t').run.1, (signer.provider.serve t').run.2.sink) =
      ((signer.provider.serve t).run.1, (signer.provider.serve t).run.2.sink) := by
  obtain ⟨requests, rest, ending, starts, ends⟩ := Frame.exists_frames Request octets
  have run := signer.provider.serve_run starts ends delivers
  have run' := signer.provider.serve_run starts ends delivers'
  rw [sink, ← run] at run'
  exact run'

/-- **An echo signer and the service with its provider are interchangeable**: they give the same
response to every request, so a session on the same streams is the same session, whatever the
streams do.  Where the streams hand over the same octets, the requests may even be cut in another
way: the same octets are written, and the session ends in the same way. -/
theorem interchangeable :
    (∀ request, (signer.provider.handle request).run = signer.handle request) ∧
    (∀ t, (signer.provider.serve t).run =
      ((signer.serve t).1.mapError .wire, (signer.serve t).2)) ∧
    ∀ octets (t t' : Transport), t.source.Delivers octets → t'.source.Delivers octets →
      t'.sink = t.sink →
        (signer.provider.serve t').run.1 = (signer.serve t).1.mapError .wire ∧
          (signer.provider.serve t').run.2.sink = (signer.serve t).2.sink := by
  refine ⟨signer.handle_provider, signer.serve_provider, ?_⟩
  intro octets t t' delivers delivers' sink
  have same := signer.serve_provider_recut delivers delivers' sink
  rw [signer.serve_provider t] at same
  exact Prod.mk.inj same

/-- A digest that is too short, sent to the echo signer in one piece and to the service in two with
an interruption in between. -/
theorem interchangeable_recut :
    let signer : EchoSigner := ⟨[1], [2]⟩
    let octets := Frame.ofMessage (Request.current 0 (.sign ⟨[7], some .sha256, none⟩))
    let whole : Transport := { source := { chunks := [.octets octets] } }
    let pieces : Transport := { source := { chunks :=
      [.octets (octets.take 3), .failure ⟨.interrupted, ""⟩, .octets (octets.drop 3)] } }
    whole.source.Delivers octets ∧ pieces.source.Delivers octets ∧
      (signer.provider.serve pieces).run.1 = (signer.serve whole).1.mapError .wire ∧
        (signer.provider.serve pieces).run.2.sink = (signer.serve whole).2.sink := by
  intro signer octets whole pieces
  have one : octets ≠ [] := by decide +kernel
  have first : octets.take 3 ≠ [] := by decide +kernel
  have second : octets.drop 3 ≠ [] := by decide +kernel
  have delivers : whole.source.Delivers octets :=
    ⟨List.forall_mem_singleton.mpr one, List.append_nil octets⟩
  have delivers' : pieces.source.Delivers octets := by
    refine ⟨List.forall_mem_cons.mpr ⟨first, List.forall_mem_cons.mpr
      ⟨rfl, List.forall_mem_singleton.mpr second⟩⟩, ?_⟩
    change octets.take 3 ++ (octets.drop 3 ++ []) = octets
    rw [List.append_nil, List.take_append_drop]
  exact ⟨delivers, delivers',
    (interchangeable signer).2.2 octets whole pieces delivers delivers' rfl⟩

end RemoteSigner.EchoSigner
