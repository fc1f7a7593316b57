import MessageSignatures.Proofs.Signature.Labelled
import MessageSignatures.Proofs.Signature.Unambiguous

/-!
# A signature that is written and read again

A base is signed with `baseText`, and its signature is written with `text`. What a reader of the two
headers finds is therefore the signature itself and the parameters with their canonical text as the
received one (`LabelledSignature.parse_texts`). The base that the reader builds differs from the one
that was signed in the last line at most, and it is the same exactly if the two texts of the
parameters are (`build_asReceived`, `octets_asReceived`).

The texts are the same for parameters that a program has made or changed, since those have no
received text. They differ for parameters that were read from a member in another order, or with
declarations that are not kept: such parameters can be signed again, but what is written of them
does not tell what was signed (`Reordered`).
-/

namespace MessageSignatures

/-- **A signature by itself** is read as it was written. -/
theorem LabelledSignature.parse_texts {e : LabelledSignature}
    (hlabel : StructuredField.isKey e.label = true) (hp : e.params.Writable)
    (ht : e.params.Timely) :
    parseSignature e.signatureText e.label = .ok e.signature
      ∧ ∃ m, parseSignatureInput e.inputText = .ok m
        ∧ m.entries = [(e.label, e.params.asReceived)] := by
  have hwritable : Writable [e] := writable_singleton hlabel hp ht
  have hinput := parseSignatureInput_inputText hwritable
  have hsignature := parseSignature_signatureText hwritable.printable (List.mem_singleton_self e)
  -- a list of one is written without separators
  rw [List.map_singleton, String.intercalate_singleton] at hinput hsignature
  exact ⟨hsignature, hinput⟩

namespace SignatureBase

variable {v : RequestView} {p : SignatureParams} {b : SignatureBase}

/-- Parameters that are read back have a base wherever they had one. -/
theorem build_asReceived (hb : build v p = .ok b) :
    build v p.asReceived = .ok ⟨b.components, p.asReceived⟩ :=
  build_eq_ok.2 ⟨rfl, (build_eq_ok.1 hb).2⟩

theorem paramsLine_inj {q : SignatureParams} :
    paramsLine p = paramsLine q ↔ p.baseText = q.baseText :=
  String.append_right_inj _

/-- **The same octets** are signed if what was signed of the parameters is what is written of
them. -/
theorem octets_asReceived (hb : build v p = .ok b) :
    (⟨b.components, p.asReceived⟩ : SignatureBase).octets = b.octets ↔ p.baseText = p.text := by
  obtain ⟨hparams, -⟩ := build_eq_ok.1 hb
  have hline : paramsLine p.asReceived = paramsLine b.params ↔ p.baseText = p.text := by
    rw [hparams, paramsLine_inj, SignatureParams.baseText_asReceived]
    exact eq_comm
  rw [← hline]
  constructor
  · intro h
    -- the lines of the components are the same, so the last lines are
    have htext := congrArg String.toList (Text.utf8_injective h)
    rw [toList_text, toList_text] at htext
    exact String.toList_inj.1 (List.append_cancel_left htext)
  · intro h
    refine congrArg Text.utf8 (String.toList_inj.1 ?_)
    rw [toList_text, toList_text, h]

/-- **Signing, writing and reading.** The signature is read as it was made. The parameters have a
base on the same request, and it is the one that was signed exactly if they are written as they were
signed; then the signature is valid for every key that accepts it over the octets that were
signed. -/
theorem sign_parse_build {key : SigningKey} {entropy : Entropy} {label : String}
    {signature : List UInt8} (hp : p.Obtained) (ht : p.Timely) (hb : build v p = .ok b)
    (hlabel : StructuredField.isKey label = true)
    (hsign : key.sign entropy b.octets = .ok signature) :
    ∃ e m b', b.sign key entropy label = .ok e
      ∧ parseSignature e.signatureText label = .ok signature
      ∧ parseSignatureInput e.inputText = .ok m ∧ m.entries = [(label, p.asReceived)]
      ∧ build v p.asReceived = .ok b'
      ∧ (b'.octets = b.octets ↔ p.baseText = p.text)
      ∧ (p.baseText = p.text → ∀ k : VerifyingKey, k.accepts b.octets signature = true →
          b'.verify k signature = .ok ()) := by
  obtain ⟨hparams, -⟩ := build_eq_ok.1 hb
  -- nothing that happens to the base between signing and writing changes the signature
  have hsigned : b.sign key entropy label = .ok ⟨label, p, signature⟩ := by
    rw [sign, hsign, hparams]
  obtain ⟨hsignature, m, hm, hentries⟩ :=
    LabelledSignature.parse_texts (e := ⟨label, p, signature⟩) hlabel hp.writable ht
  refine ⟨_, m, _, hsigned, hsignature, hm, hentries, build_asReceived hb, octets_asReceived hb, ?_⟩
  -- the key accepts the octets that were signed, which are those of the base that was read
  intro htext k hk
  rw [verify, (octets_asReceived hb).2 htext, VerifyingKey.verify, if_pos hk]

/-! ### Parameters in another order -/

namespace Reordered

/-- A request. -/
def view : RequestView where
  method := "GET"
  path := "/"

/-- A text of parameters that is not the canonical one. -/
def received : String :=
  "(\"@path\");keyid=\"k\";alg=\"hmac-sha256\";created=1"

/-- The parameters of the text. -/
def parameters : SignatureParams :=
  ⟨1, none, none, "hmac-sha256", "k", [.derived .path], some received⟩

/-- The base of the parameters. -/
def base : SignatureBase :=
  ⟨[⟨.derived .path, "/"⟩], parameters⟩

/-- A key whose signatures are the octets they are made over. -/
def echo : SigningKey where
  alg := .hmacSha256
  sign := fun _ message => .ok message

/-- The key that accepts them. -/
def echoed : VerifyingKey where
  alg := .hmacSha256
  accepts := fun message signature => message == signature

/-- The same parameters, made anew. -/
def fresh : SignatureParams :=
  { parameters with received := none }

/-- The base of the parameters that were made anew. -/
def freshBase : SignatureBase :=
  ⟨base.components, fresh⟩

theorem obtained_fresh : fresh.Obtained := by
  have hnew : SignatureParams.new [.derived .path] 1 .hmacSha256 "k" = .ok fresh := by
    rw [SignatureParams.new, if_neg (by decide), if_neg (by decide)]
    rfl
  exact .new hnew

theorem sign_echo (entropy : Entropy) (message : List UInt8) :
    echo.sign entropy message = .ok message := rfl

theorem accepts_echoed (message : List UInt8) : echoed.accepts message message = true :=
  beq_self_eq_true message

theorem parse_received : SignatureParams.parse received = .ok parameters := rfl

theorem obtained_parameters : parameters.Obtained :=
  .parse parse_received

theorem timely_parameters : parameters.Timely :=
  ⟨by decide, by simp [parameters]⟩

theorem timely_fresh : fresh.Timely :=
  ⟨timely_parameters.created, timely_parameters.expires⟩

theorem build_view : build view parameters = .ok base := rfl

theorem sign_base (label : String) (entropy : Entropy) :
    base.sign echo entropy label = .ok ⟨label, parameters, base.octets⟩ := rfl

end Reordered

open Reordered in
/-- Made anew, the same parameters come back with the base that was signed. -/
theorem sign_parse_build_fresh :
    ∃ e m b', freshBase.sign echo (fun _ => 0) "sig" = .ok e
      ∧ parseSignatureInput e.inputText = .ok m ∧ m.entries = [("sig", fresh.asReceived)]
      ∧ build view fresh.asReceived = .ok b' ∧ b'.octets = freshBase.octets
      ∧ b'.verify echoed freshBase.octets = .ok () := by
  obtain ⟨e, m, b', he, -, hm, hentries, hb', hoctets, hvalid⟩ :=
    sign_parse_build (p := fresh) (b := freshBase) (v := view) obtained_fresh
      timely_fresh rfl (by decide : StructuredField.isKey "sig" = true)
      (sign_echo (fun _ => 0) _)
  exact ⟨e, m, b', he, hm, hentries, hb', hoctets.2 rfl,
    hvalid rfl echoed (accepts_echoed freshBase.octets)⟩

open Reordered in
/-- **A reader may find another base.** What is written of parameters does not tell what was signed
of them in general. -/
theorem not_build_of_sign_parse :
    ¬ ∀ (v : RequestView) (p : SignatureParams) (b : SignatureBase) (key : SigningKey)
      (entropy : Entropy) (label : String) (signature : List UInt8),
      p.Obtained → p.Timely → build v p = .ok b → StructuredField.isKey label = true →
      key.sign entropy b.octets = .ok signature →
        ∃ e m q b', b.sign key entropy label = .ok e
          ∧ parseSignature e.signatureText label = .ok signature
          ∧ parseSignatureInput e.inputText = .ok m ∧ m.get? label = some q
          ∧ build v q = .ok b' ∧ b'.octets = b.octets := by
  intro h
  obtain ⟨e, m, q, b', he, -, hm, hq, hb', hoctets⟩ :=
    h view parameters base echo (fun _ => 0) "sig"
    base.octets obtained_parameters timely_parameters build_view (by decide) rfl
  obtain rfl : ⟨"sig", parameters, base.octets⟩ = e := by
    rw [sign_base] at he
    exact Except.ok.inj he
  -- what a reader finds is determined, and its base has another last line
  obtain ⟨-, m', hm', hentries⟩ := LabelledSignature.parse_texts
    (e := ⟨"sig", parameters, base.octets⟩) (by decide) obtained_parameters.writable
    timely_parameters
  obtain rfl : m = m' := Except.ok.inj (hm.symm.trans hm')
  have hread : m.get? "sig" = some parameters.asReceived :=
    OrderedMap.get?_of_mem (by rw [hentries]; exact List.mem_singleton_self _)
  obtain rfl : q = parameters.asReceived := Option.some.inj (hq.symm.trans hread)
  -- and the next base is built from what was read
  obtain rfl := Except.ok.inj (hb'.symm.trans (build_asReceived build_view))
  exact absurd ((octets_asReceived build_view).1 hoctets) (by decide)

end SignatureBase

end MessageSignatures
