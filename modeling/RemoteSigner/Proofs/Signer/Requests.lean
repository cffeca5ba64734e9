import RemoteSigner.Proofs.Outcomes
import RemoteSigner.Proofs.Wire.Correlation
import RemoteSigner.Proofs.Wire.Sessions

/-!
# What a service asks its provider for

A request of this version of the protocol asks the provider for one thing: for a certificate chain,
a public key, or an operation on the octets of the call.  What is signed has to be as long as the
options demand.  Other requests are refused without the provider hearing of them.

Who hears of what is shown by a provider that writes down all that it is asked for
(`Provider.recorded`).  Since a service knows nothing of its provider but the operations, what it
asks that provider for is what it asks every other one for.

## Main definitions

* `Inquiry`: what a provider may be asked for
* `Request.Asks`, `Request.Refused`: what a request asks for, and why it is refused
* `Provider.recorded`: a provider that writes down what it is asked for
* `Response.telling`: the response that tells a result

## Main results

* `Request.asks_or_refused`: every request does one of both
* `Provider.handle_of_asks`, `Provider.handle_of_refused`: the response to it
* `Provider.handle_recorded`: responses, and what the provider is asked for
-/

namespace RemoteSigner

open Signer Wire

/-- The response that tells a result. -/
def Response.telling (id : UInt64) : Except Signer.Error Reply → Response
  | .ok reply => .ok id reply
  | .error error => .failed id error.message

/-- A response that tells a result has the number, and either a reply or a text. -/
theorem Response.telling_cases (id : UInt64) (result : Except Signer.Error Reply) :
    (Response.telling id result).id = id ∧
      ((Response.telling id result).result.isSome ↔ (Response.telling id result).error = none) := by
  cases result with
  | ok reply => exact ⟨rfl, iff_of_true rfl rfl⟩
  | error error => exact ⟨rfl, iff_of_false nofun nofun⟩

/-! ## Inquiries -/

namespace Signer

/-- What a provider may be asked for. -/
inductive Inquiry where
  /-- The certificates. -/
  | certificateChain
  /-- The public key. -/
  | publicKey
  /-- A signature of a digest, with these options if there are any. -/
  | sign (digest : Bytes) (opts : Option SignerOpts)
  /-- Encryption of octets. -/
  | encrypt (data : Bytes) (hash : HashAlgorithm)
  /-- Decryption of octets. -/
  | decrypt (data : Bytes) (hash : HashAlgorithm)
  deriving DecidableEq, Repr

end Signer

/-- What a call asks a provider for.  The provider is handed the octets and the algorithm of the
call.  To sign, it is handed the options if there are any, or else the bare algorithm; a digest has
the length that these demand. -/
inductive Call.Asks : Call → Inquiry → Prop where
  | certificateChain : Asks .certificateChain .certificateChain
  | publicKey : Asks .publicKey .publicKey
  | signWith {args : SignArgs} {opts : SignerOpts} (given : args.opts = some opts)
      (whole : args.digest.length = opts.algorithm.size) :
      Asks (.sign args) (.sign args.digest (some opts))
  | signHashed {args : SignArgs} {hash : HashAlgorithm} (absent : args.opts = none)
      (named : args.hash = some hash) (whole : args.digest.length = hash.size) :
      Asks (.sign args) (.sign args.digest (some (.hash hash)))
  | signRaw {args : SignArgs} (absent : args.opts = none) (unnamed : args.hash = none) :
      Asks (.sign args) (.sign args.digest none)
  | encrypt (args : EncryptArgs) : Asks (.encrypt args) (.encrypt args.data args.hash)
  | decrypt (args : DecryptArgs) : Asks (.decrypt args) (.decrypt args.data args.hash)

/-- What a request asks a provider for, if it is one of this version of the protocol. -/
def Request.Asks (request : Request) (inquiry : Inquiry) : Prop :=
  request.version = protocolVersion ∧ request.call.Asks inquiry

/-- A request is refused with a text: it is of another version, or its digest has not the length
that the algorithm demands. -/
inductive Request.Refused : Request → String → Prop where
  | version {request : Request} (other : request.version ≠ protocolVersion) :
      Refused request ("Unsupported protocol version " ++ request.version.toNat.repr ++
        ", expected " ++ protocolVersion.toNat.repr)
  | length {request : Request} {args : SignArgs} {opts : SignerOpts}
      (current : request.version = protocolVersion) (signs : request.call = .sign args)
      (counts : args.effectiveOpts = some opts)
      (mismatch : args.digest.length ≠ opts.algorithm.size) :
      Refused request ("Digest length of " ++ args.digest.length.repr ++
        " bytes does not match Hash function size of " ++ opts.algorithm.size.repr ++ " bytes")

namespace SignArgs

variable {args : SignArgs}

theorem effectiveOpts_of_given {opts : SignerOpts} (given : args.opts = some opts) :
    args.effectiveOpts = some opts := by
  rw [effectiveOpts, given]
  rfl

theorem effectiveOpts_of_absent (absent : args.opts = none) :
    args.effectiveOpts = args.hash.map .hash := by
  rw [effectiveOpts, absent]
  rfl

end SignArgs

namespace Call.Asks

/-- To sign is to ask with the options that count, for a digest of the right length. -/
theorem sign_iff {args : SignArgs} {inquiry : Inquiry} : Call.Asks (.sign args) inquiry ↔
    inquiry = .sign args.digest args.effectiveOpts ∧
      ∀ opts, args.effectiveOpts = some opts → args.digest.length = opts.algorithm.size := by
  constructor
  · intro asks
    cases asks with
    | signWith given whole =>
      rw [SignArgs.effectiveOpts_of_given given]
      exact ⟨rfl, fun opts same => Option.some.inj same ▸ whole⟩
    | signHashed absent named whole =>
      rw [SignArgs.effectiveOpts_of_absent absent, named]
      exact ⟨rfl, fun opts same => Option.some.inj same ▸ whole⟩
    | signRaw absent unnamed =>
      rw [SignArgs.effectiveOpts_of_absent absent, unnamed]
      exact ⟨rfl, nofun⟩
  · rintro ⟨rfl, whole⟩
    cases given : args.opts with
    | some opts =>
      have counts := SignArgs.effectiveOpts_of_given given
      rw [counts]
      exact .signWith given (whole opts counts)
    | none =>
      have counts := SignArgs.effectiveOpts_of_absent given
      rw [counts]
      cases named : args.hash with
      | some hash =>
        rw [named] at counts
        exact .signHashed given named (whole (.hash hash) counts)
      | none => exact .signRaw given named

/-- A call asks for one thing only. -/
theorem unique {call : Call} {inquiry other : Inquiry} (asks : call.Asks inquiry)
    (asks' : call.Asks other) : other = inquiry := by
  cases call with
  | sign args => rw [(sign_iff.mp asks).1, (sign_iff.mp asks').1]
  | _ =>
    cases asks
    cases asks'
    rfl

/-- No digest reaches the provider that has not the length that its options demand. -/
theorem length_digest {call : Call} {digest : Bytes} {opts : SignerOpts}
    (asks : call.Asks (.sign digest (some opts))) : digest.length = opts.algorithm.size := by
  cases asks with
  | signWith given whole => exact whole
  | signHashed absent named whole => exact whole

end Call.Asks

namespace Request

variable {request : Request}

/-- Every request asks the provider for something or is refused. -/
theorem asks_or_refused (request : Request) :
    (∃ inquiry, request.Asks inquiry) ∨ ∃ text, request.Refused text := by
  rcases request with ⟨id, version, call⟩
  by_cases current : version = protocolVersion
  · cases call with
    | certificateChain => exact .inl ⟨_, current, .certificateChain⟩
    | publicKey => exact .inl ⟨_, current, .publicKey⟩
    | encrypt args => exact .inl ⟨_, current, .encrypt args⟩
    | decrypt args => exact .inl ⟨_, current, .decrypt args⟩
    | sign args =>
      by_cases whole : ∀ opts, args.effectiveOpts = some opts →
          args.digest.length = opts.algorithm.size
      · exact .inl ⟨_, current, Call.Asks.sign_iff.mpr ⟨rfl, whole⟩⟩
      · push Not at whole
        obtain ⟨opts, counts, mismatch⟩ := whole
        exact .inr ⟨_, .length current rfl counts mismatch⟩
  · exact .inr ⟨_, .version current⟩

/-- A request that asks the provider for something is not refused. -/
theorem Asks.not_refused {inquiry : Inquiry} (asks : request.Asks inquiry) (text : String) :
    ¬ request.Refused text := by
  intro refused
  cases refused with
  | version other => exact other asks.1
  | length current signs counts mismatch =>
    have signing := asks.2
    rw [signs] at signing
    exact mismatch ((Call.Asks.sign_iff.mp signing).2 _ counts)

/-- There is one reason only to refuse a request. -/
theorem Refused.unique {text other : String} (refused : request.Refused text)
    (refused' : request.Refused other) : other = text := by
  cases refused with
  | version unknown =>
    cases refused' with
    | version _ => rfl
    | length current _ _ _ => exact absurd current unknown
  | length current signs counts _ =>
    cases refused' with
    | version unknown => exact absurd current unknown
    | length _ signs' counts' _ =>
      obtain rfl := Call.sign.inj (signs.symm.trans signs')
      obtain rfl := Option.some.inj (counts.symm.trans counts')
      rfl

end Request

/-! ## Providers -/

namespace Signer

variable {m : Type → Type} [Monad m]

namespace Provider

/-- What a provider gives when it is asked for something: a reply of the kind that belongs to the
inquiry, with the octets of the provider as they are. -/
def answer (provider : Provider m) : Inquiry → m (Except Error Reply)
  | .certificateChain => Except.map .certificateChain <$> provider.certificateChain
  | .publicKey => Except.map .publicKey <$> provider.publicKey
  | .sign digest opts => Except.map .signature <$> provider.sign digest opts
  | .encrypt data hash => Except.map .ciphertext <$> provider.encrypt data hash
  | .decrypt data hash => Except.map .plaintext <$> provider.decrypt data hash

/-- Does what is asked for, and writes the inquiry down. -/
def noting {α : Type} (inquiry : Inquiry) (action : m α) : StateT (List Inquiry) m α := do
  modify (· ++ [inquiry])
  StateT.lift action

/-- A provider that writes down what it is asked for. -/
def recorded (provider : Provider m) : Provider (StateT (List Inquiry) m) where
  certificateChain := noting .certificateChain provider.certificateChain
  publicKey := noting .publicKey provider.publicKey
  sign digest opts := noting (.sign digest opts) (provider.sign digest opts)
  encrypt data hash := noting (.encrypt data hash) (provider.encrypt data hash)
  decrypt data hash := noting (.decrypt data hash) (provider.decrypt data hash)

variable [LawfulMonad m] (provider : Provider m) {request : Request} {inquiry : Inquiry}

theorem run_noting {α : Type} (inquiry : Inquiry) (action : m α) (earlier : List Inquiry) :
    (noting inquiry action).run earlier = (fun a => (a, earlier ++ [inquiry])) <$> action := by
  rw [noting, StateT.run_bind, StateT.run_modify, pure_bind, StateT.run_lift, map_eq_pure_bind]

/-- Being written down changes nothing else about an inquiry. -/
theorem run_answer_recorded (inquiry : Inquiry) (earlier : List Inquiry) :
    (provider.recorded.answer inquiry).run earlier =
      (fun result => (result, earlier ++ [inquiry])) <$> provider.answer inquiry := by
  cases inquiry <;>
    simp only [answer, recorded, StateT.run_map, run_noting, Functor.map_map]

theorem yields_tag {α : Type} (tell : α → Reply) {tag : Reply.Tag}
    (ofTag : ∀ a, (tell a).tag = tag) (action : m (Except Error α)) :
    Yields (fun result => ∀ reply, result = .ok reply → reply.tag = tag)
      (Except.map tell <$> action) := by
  apply Yields.of_forall
  intro result reply told
  obtain ⟨a, -, rfl⟩ := map_eq_ok_iff.mp told
  exact ofTag a

/-- The reply is of the kind that belongs to the call. -/
theorem answer_tag {call : Call} (asks : call.Asks inquiry) :
    Yields (fun result => ∀ reply, result = .ok reply → reply.tag = call.wants)
      (provider.answer inquiry) := by
  cases asks with
  | certificateChain => exact yields_tag .certificateChain (fun _ => rfl) _
  | publicKey => exact yields_tag .publicKey (fun _ => rfl) _
  | encrypt => exact yields_tag .ciphertext (fun _ => rfl) _
  | decrypt => exact yields_tag .plaintext (fun _ => rfl) _
  | _ => exact yields_tag .signature (fun _ => rfl) _

/-! ## Requests -/

theorem handle_current (id : UInt64) (call : Call) :
    provider.handle (.current id call) = Response.telling id <$> provider.perform call := by
  have same : (Request.current id call).version = protocolVersion := rfl
  rw [handle, if_neg (not_not.mpr same), map_eq_pure_bind]
  congr 1
  funext result
  cases result <;> rfl

theorem perform_of_asks {call : Call} (asks : call.Asks inquiry) :
    provider.perform call = provider.answer inquiry := by
  cases call with
  | sign args =>
    obtain ⟨rfl, whole⟩ := Call.Asks.sign_iff.mp asks
    rw [perform, signArgs, answer, map_eq_pure_bind]
    cases counts : args.effectiveOpts with
    | none => rfl
    | some opts => simp only [whole opts counts, ne_eq, not_true_eq_false, if_false]
  | _ =>
    cases asks
    exact (map_eq_pure_bind _ _).symm

/-- A request that asks for something is told what comes of it. -/
theorem handle_of_asks (asks : request.Asks inquiry) :
    provider.handle request = Response.telling request.id <$> provider.answer inquiry := by
  rcases request with ⟨id, version, call⟩
  obtain ⟨rfl, asks⟩ := asks
  rw [← provider.perform_of_asks asks]
  exact provider.handle_current id call

/-- A request that is refused is told why, and the provider does nothing. -/
theorem handle_of_refused {text : String} (refused : request.Refused text) :
    provider.handle request = pure (.failed request.id text) := by
  cases refused with
  | version other =>
    rw [handle, if_pos other]
    rfl
  | @length args opts current signs counts mismatch =>
    rcases request with ⟨id, version, call⟩
    obtain rfl : version = protocolVersion := current
    obtain rfl : call = .sign args := signs
    have unsigned : provider.perform (.sign args) =
        pure (.error (.digestLength args.digest.length opts.algorithm.size)) := by
      simp only [perform, signArgs, counts, if_pos mismatch, pure_bind]
      rfl
    rw [← Request.current, provider.handle_current, unsigned, map_pure]
    rfl

/-- **What a service answers, and what it asks its provider for.**  Its response has the number of
the request, and either a reply or a text.  A request of this version asks the provider for one
thing, which is what the call says, and is told what comes of that; to sign a digest that has not
the length that its options demand, as well as any request of another version, is refused with the
provider left alone. -/
theorem handle_recorded (request : Request) (earlier : List Inquiry) :
    Prod.fst <$> (provider.recorded.handle request).run earlier = provider.handle request ∧
    Yields (fun response => response.id = request.id ∧
      (response.result.isSome ↔ response.error = none)) (provider.handle request) ∧
    (∀ digest opts, request.Asks (.sign digest (some opts)) →
      digest.length = opts.algorithm.size) ∧
    ((∃ inquiry, request.Asks inquiry ∧ (∀ other, request.Asks other → other = inquiry) ∧
        (∀ text, ¬ request.Refused text) ∧
        Yields (fun result => ∀ reply, result = .ok reply → reply.tag = request.call.wants)
          (provider.answer inquiry) ∧
        (provider.recorded.handle request).run earlier =
          (fun result => (Response.telling request.id result, earlier ++ [inquiry])) <$>
            provider.answer inquiry) ∨
      ∃ text, request.Refused text ∧ (∀ other, request.Refused other → other = text) ∧
        (∀ inquiry, ¬ request.Asks inquiry) ∧
        (provider.recorded.handle request).run earlier =
          pure (.failed request.id text, earlier)) := by
  have whole (digest : Bytes) (opts : SignerOpts)
      (asks : request.Asks (.sign digest (some opts))) := asks.2.length_digest
  rcases request.asks_or_refused with ⟨inquiry, asks⟩ | ⟨text, refused⟩
  · have run : (provider.recorded.handle request).run earlier =
        (fun result => (Response.telling request.id result, earlier ++ [inquiry])) <$>
          provider.answer inquiry := by
      rw [provider.recorded.handle_of_asks asks, StateT.run_map, provider.run_answer_recorded,
        Functor.map_map]
    refine ⟨?_, ?_, whole, .inl ⟨inquiry, asks, fun other asks' => asks.2.unique asks'.2,
      asks.not_refused, provider.answer_tag asks.2, run⟩⟩
    · rw [run, Functor.map_map, provider.handle_of_asks asks]
    · rw [provider.handle_of_asks asks]
      exact .of_forall (Response.telling_cases request.id) _
  · have run : (provider.recorded.handle request).run earlier =
        pure (.failed request.id text, earlier) := by
      rw [provider.recorded.handle_of_refused refused, StateT.run_pure]
    refine ⟨?_, ?_, whole, .inr ⟨text, refused, fun other => refused.unique,
      fun inquiry asks => asks.not_refused text refused, run⟩⟩
    · rw [run, map_pure, provider.handle_of_refused refused]
    · rw [provider.handle_of_refused refused]
      exact ⟨pure ⟨.failed request.id text, rfl, iff_of_false nofun nofun⟩, map_pure _ _⟩

/-- A digest that is too short for its algorithm, and one that is too long for the bare algorithm
but as long as the options demand. -/
theorem handle_recorded_digests :
    let short := Request.current 7 (.sign ⟨[1, 2], some .sha256, none⟩)
    let opts := SignerOpts.pssOf .sha256
    let digest := List.replicate 32 0
    let signs := Request.current 8 (.sign ⟨digest, some .sha1, some opts⟩)
    let provider := unableToSign "no"
    ((provider.recorded.handle short).run []).run = (.failed 7
      "Digest length of 2 bytes does not match Hash function size of 32 bytes", []) ∧
    ((provider.recorded.handle signs).run []).run =
      (.failed 8 "Wire protocol error:\nno", [.sign digest (some opts)]) := by
  intro short opts digest signs provider
  constructor
  · have mismatch : [1, 2].length ≠ (SignerOpts.hash .sha256).algorithm.size := by decide
    have refused : short.Refused
        "Digest length of 2 bytes does not match Hash function size of 32 bytes" :=
      @Request.Refused.length short ⟨[1, 2], some .sha256, none⟩ (.hash .sha256) rfl rfl rfl
        mismatch
    obtain ⟨-, -, -, ⟨inquiry, asks, -⟩ | ⟨text, -, unique, -, run⟩⟩ :=
      provider.handle_recorded short []
    · exact absurd refused (asks.not_refused _)
    · rw [← unique _ refused] at run
      exact run
  · have asks : signs.Asks (.sign digest (some opts)) := ⟨rfl, .signWith rfl rfl⟩
    obtain ⟨-, -, -, ⟨inquiry, -, unique, -, -, run⟩ | ⟨text, -, -, none, -⟩⟩ :=
      provider.handle_recorded signs []
    · rw [← unique _ asks] at run
      exact run
    · exact absurd asks (none _)

end Provider

end Signer

end RemoteSigner
