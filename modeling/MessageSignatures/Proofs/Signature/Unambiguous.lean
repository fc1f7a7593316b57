import MessageSignatures.Proofs.Signature.Declaration
import MessageSignatures.Signature.Base

/-!
# What the octets of a signature base determine

A signature base is a text of lines, and nothing in it is escaped. Its octets are what a key signs,
so two requests with the same octets are one to every verifier. How far apart can such requests be?

* **Parameters.** What is signed of obtained parameters is printable, so it is the last line of the
  base, whatever the values before it hold (`lines_eq_and_baseText_eq`). It tells the covered
  components in their order (`SignatureParams.covered_eq_of_baseText_eq`).
* **Values.** A value that holds a line feed can imitate the line of another component. Lines come
  apart as soon as it is known how many line feeds each value holds (`components_eq_of_lines_eq`),
  and no sooner: two requests with the same octets agree in every covered value exactly if they
  agree in the numbers of line feeds (`values_eq_of_lineFeeds_eq`).
* **One coverage.** With the same parameters it is enough that the numbers of line feeds lie one way
  (`octets_eq_iff_of_lineFeeds_le`).
* **Single lines.** Values without line feeds are therefore determined
  (`values_eq_of_lineFeed_not_mem`). No transport that restricts header values to visible characters
  leaves this case.
-/

namespace MessageSignatures

namespace SignatureBase

variable {v w : RequestView} {p q : SignatureParams} {b c : SignatureBase}

/-- **Base of a request**, component by component. -/
theorem build_eq_ok :
    build v p = .ok b ↔ b.params = p
      ∧ List.Forall₂ (fun id k => k.id = id ∧ v.componentValue id = .ok k.value)
          p.covered b.components := by
  -- the component that an identifier resolves to repeats it
  have hresolve (id : ComponentId) (k : Component) :
      v.resolve id = .ok k ↔ k.id = id ∧ v.componentValue id = .ok k.value := by
    rw [RequestView.resolve, Fallible.map_eq_ok]
    constructor
    · rintro ⟨value, hvalue, rfl⟩
      exact ⟨rfl, hvalue⟩
    · rintro ⟨rfl, hvalue⟩
      exact ⟨k.value, hvalue, rfl⟩
  simp only [build, Fallible.map_eq_ok, Fallible.mapM_eq_ok, hresolve]
  constructor
  · rintro ⟨components, h, rfl⟩
    exact ⟨rfl, h⟩
  · rintro ⟨rfl, h⟩
    exact ⟨b.components, h, rfl⟩

/-- A base that cannot be built lacks the value of a component; it is the first that has none. -/
theorem build_eq_error {e : Error} :
    build v p = .error e ↔ ∃ before id after, p.covered = before ++ id :: after
      ∧ (∀ i ∈ before, ∃ x, v.componentValue i = .ok x) ∧ v.componentValue id = .error e := by
  -- that a component resolves is a matter of its value, for success and for failure
  have hresolve (i : ComponentId) :
      (∃ k, v.resolve i = .ok k) ↔ ∃ x, v.componentValue i = .ok x := by
    constructor
    · rintro ⟨k, hk⟩
      obtain ⟨x, hx, -⟩ := Fallible.map_eq_ok.1 hk
      exact ⟨x, hx⟩
    · rintro ⟨x, hx⟩
      exact ⟨⟨i, x⟩, Fallible.map_eq_ok.2 ⟨x, hx, rfl⟩⟩
  have hfault (i : ComponentId) : v.resolve i = .error e ↔ v.componentValue i = .error e :=
    Fallible.map_eq_error
  rw [build, Fallible.map_eq_error, Fallible.mapM_eq_error]
  simp only [hresolve, hfault]

/-- A request that gives every covered component the same value has the same base. -/
theorem build_of_componentValue_eq (hb : build v p = .ok b)
    (h : ∀ id ∈ p.covered, w.componentValue id = v.componentValue id) : build w p = .ok b := by
  obtain ⟨hparams, hvalues⟩ := build_eq_ok.1 hb
  refine build_eq_ok.2 ⟨hparams, Fallible.forall₂_imp_of_mem hvalues ?_⟩
  intro id hid k hk
  rw [h id hid]
  exact hk

/-! ### Lines -/

/-- The characters of the lines of components, each with the line feed that ends it. -/
def lines (components : List Component) : List Char :=
  components.flatMap fun k => k.line.toList ++ ['\n']

theorem toList_text (b : SignatureBase) :
    b.text.toList = lines b.components ++ (paramsLine b.params).toList := by
  have hfeed : "\n".toList = ['\n'] := rfl
  rw [text, String.toList_append, lines]
  congr 1
  -- each line ends in a line feed, so no separator is left over
  induction b.components with
  | nil => rfl
  | cons k ks ih =>
    rw [List.map_cons, String.join_cons, String.toList_append, String.toList_append, hfeed, ih,
      List.flatMap_cons]

/-- With a line feed before them, lines end in one even if there are none. -/
theorem exists_lines_eq (ks : List Component) : ∃ cs, '\n' :: lines ks = cs ++ ['\n'] := by
  induction ks with
  | nil => exact ⟨[], rfl⟩
  | cons k ks ih =>
    obtain ⟨cs, hcs⟩ := ih
    refine ⟨'\n' :: k.line.toList ++ cs, ?_⟩
    rw [List.append_assoc, ← hcs, lines, List.flatMap_cons, ← lines]
    simp

/-- The line of the parameters is a single line. -/
theorem lineFeed_not_mem_paramsLine (hp : p.Obtained) : '\n' ∉ (paramsLine p).toList := by
  have hlabel : Text.isPrintable "\"@signature-params\": " = true := by decide
  have hbase := hp.exists_signedList.1
  refine Text.lineFeed_not_mem_of_isPrintable ?_
  unfold paramsLine
  rw [Text.isPrintable_append, hlabel, hbase]
  rfl

/-- **The last line** of a base comes apart from the lines before it. -/
theorem lines_eq_and_baseText_eq (hp : p.Obtained) (hq : q.Obtained) (hb : build v p = .ok b)
    (hc : build w q = .ok c) (h : b.octets = c.octets) :
    lines b.components = lines c.components ∧ p.baseText = q.baseText := by
  obtain ⟨hbp, -⟩ := build_eq_ok.1 hb
  obtain ⟨hcq, -⟩ := build_eq_ok.1 hc
  obtain ⟨xs, hxs⟩ := exists_lines_eq b.components
  obtain ⟨ys, hys⟩ := exists_lines_eq c.components
  -- a line feed in front makes the lines end in one, also if nothing is covered
  have htext := congrArg (fun s => '\n' :: s.toList) (Text.utf8_injective h)
  simp only [toList_text, ← List.cons_append, hxs, hys, hbp, hcq, List.append_assoc] at htext
  rw [List.cons_append, List.nil_append, List.cons_append, List.nil_append] at htext
  obtain ⟨hlines, hlast⟩ := Text.append_lastLine_inj (lineFeed_not_mem_paramsLine hp)
    (lineFeed_not_mem_paramsLine hq) htext
  constructor
  · rw [hlines, ← hys] at hxs
    exact (List.cons.inj hxs).2
  · have hparams := String.toList_inj.1 hlast
    exact (String.append_right_inj _).1 hparams

/-! ### Values -/

theorem lineFeeds_line (k : Component) : k.line.toList.count '\n' = Text.lineFeeds k.value := by
  have hcolon : ": ".toList.count '\n' = 0 := by decide
  have hid : k.id.text.toList.count '\n' = 0 :=
    List.count_eq_zero.2 (Text.lineFeed_not_mem_of_isPrintable k.id.isPrintable_text)
  rw [Component.line, String.toList_append, String.toList_append, List.count_append,
    List.count_append, hid, hcolon, Nat.zero_add, Text.lineFeeds]

/-- **Lines come apart** if the values hold as many line feeds, one by one. -/
theorem components_eq_of_lines_eq {xs ys : List Component}
    (h : List.Forall₂ (fun x y => x.id = y.id ∧ Text.lineFeeds x.value = Text.lineFeeds y.value)
      xs ys)
    (hlines : lines xs = lines ys) : xs = ys := by
  induction h with
  | nil => rfl
  | @cons x y xs ys hxy _ ih =>
    obtain ⟨hid, hcount⟩ := hxy
    rw [lines, lines, List.flatMap_cons, List.flatMap_cons, List.append_assoc, List.append_assoc,
      ← lines, ← lines] at hlines
    rw [← lineFeeds_line, ← lineFeeds_line] at hcount
    -- the first lines are cut off after the same number of line feeds
    obtain ⟨hline, hrest⟩ := Text.append_lineFeed_inj hcount hlines
    -- the identifiers stand in front of the values and are equal already
    have hvalue : x.value = y.value := by
      have hline := String.toList_inj.1 hline
      rw [Component.line, Component.line, hid] at hline
      exact (String.append_right_inj _).1 hline
    rw [ih hrest]
    congr 1
    exact (Component.mk.injEq _ _ _ _).mpr ⟨hid, hvalue⟩

theorem count_lines_cons (k : Component) (ks : List Component) :
    (lines (k :: ks)).count '\n' = Text.lineFeeds k.value + 1 + (lines ks).count '\n' := by
  rw [lines, List.flatMap_cons, ← lines, List.count_append, List.count_append, lineFeeds_line]
  rfl

/-- No value on the left holds more line feeds than its partner on the right. The lines can then
hold as many only if each value does. -/
theorem lineFeeds_eq_of_le {xs ys : List Component}
    (h : List.Forall₂ (fun x y => x.id = y.id ∧ Text.lineFeeds x.value ≤ Text.lineFeeds y.value)
      xs ys) :
    (lines xs).count '\n' ≤ (lines ys).count '\n'
      ∧ ((lines xs).count '\n' = (lines ys).count '\n' →
        List.Forall₂ (fun x y => x.id = y.id ∧ Text.lineFeeds x.value = Text.lineFeeds y.value)
          xs ys) := by
  induction h with
  | nil => exact ⟨Nat.le_refl _, fun _ => .nil⟩
  | @cons x y xs ys hxy _ ih =>
    obtain ⟨hid, hvalue⟩ := hxy
    obtain ⟨hle, htail⟩ := ih
    -- the sums are compared part by part
    rw [count_lines_cons, count_lines_cons]
    refine ⟨by omega, fun hcount => ?_⟩
    -- neither part can make up for the other
    have hfirst : Text.lineFeeds x.value = Text.lineFeeds y.value := by omega
    have hrest : (lines xs).count '\n' = (lines ys).count '\n' := by omega
    exact .cons ⟨hid, hfirst⟩ (htail hrest)

/-- Values that are related on two requests make components that are. -/
theorem forall₂_of_resolved {R : String → String → Prop} {ids : List ComponentId}
    {xs ys : List Component}
    (hxs : List.Forall₂ (fun id k => k.id = id ∧ v.componentValue id = .ok k.value) ids xs)
    (hys : List.Forall₂ (fun id k => k.id = id ∧ w.componentValue id = .ok k.value) ids ys)
    (h : ∀ id ∈ ids, ∀ x y, v.componentValue id = .ok x → w.componentValue id = .ok y → R x y) :
    List.Forall₂ (fun x y => x.id = y.id ∧ R x.value y.value) xs ys := by
  induction hxs generalizing ys with
  | nil =>
    cases hys
    exact .nil
  | @cons id x ids xs hx _ ih =>
    -- both have as many components as there are identifiers
    obtain _ | ⟨hy, hys⟩ := hys
    exact .cons ⟨hx.1.trans hy.1.symm, h id List.mem_cons_self _ _ hx.2 hy.2⟩
      (ih hys fun id hid => h id (List.mem_cons_of_mem _ hid))

/-- Requests with the same components have the same values. -/
theorem componentValue_eq_of_resolved {ids : List ComponentId} {ks : List Component}
    (hv : List.Forall₂ (fun id k => k.id = id ∧ v.componentValue id = .ok k.value) ids ks)
    (hw : List.Forall₂ (fun id k => k.id = id ∧ w.componentValue id = .ok k.value) ids ks) :
    ∀ id ∈ ids, v.componentValue id = w.componentValue id := by
  intro id hid
  obtain ⟨k, hk, hkid, hvalue⟩ := Fallible.exists_right_of_mem hv hid
  obtain ⟨id', -, hkid', hvalue'⟩ := Fallible.exists_left_of_mem hw hk
  rw [hvalue, ← hkid, hkid', hvalue']

/-- **Values come apart** if they hold as many line feeds. -/
theorem values_eq_of_lineFeeds_eq (hp : p.Obtained) (hq : q.Obtained) (hb : build v p = .ok b)
    (hc : build w q = .ok c) (h : b.octets = c.octets)
    (hcount : ∀ id ∈ p.covered, (v.componentValue id).map Text.lineFeeds
      = (w.componentValue id).map Text.lineFeeds) :
    ∀ id ∈ p.covered, v.componentValue id = w.componentValue id := by
  obtain ⟨hlines, hbase⟩ := lines_eq_and_baseText_eq hp hq hb hc h
  obtain ⟨-, hv⟩ := build_eq_ok.1 hb
  obtain ⟨-, hw⟩ := build_eq_ok.1 hc
  -- the second base covers what the first does
  rw [← SignatureParams.covered_eq_of_baseText_eq hp hq hbase] at hw
  have hfeeds : ∀ id ∈ p.covered, ∀ x y, v.componentValue id = .ok x → w.componentValue id = .ok y →
      Text.lineFeeds x = Text.lineFeeds y := by
    intro id hid x y hx hy
    have heq := hcount id hid
    rw [hx, hy] at heq
    exact Except.ok.inj heq
  -- the components are the same, so the values are
  rw [components_eq_of_lines_eq (forall₂_of_resolved hv hw hfeeds) hlines] at hv
  exact componentValue_eq_of_resolved hv hw

/-- **One base on two requests.** If no covered value holds more line feeds on the first request
than on the second, the octets are the same exactly if the values are. -/
theorem octets_eq_iff_of_lineFeeds_le (hb : build v p = .ok b) (hc : build w p = .ok c)
    (hle : ∀ id ∈ p.covered, ∀ x y, v.componentValue id = .ok x → w.componentValue id = .ok y →
      Text.lineFeeds x ≤ Text.lineFeeds y) :
    b.octets = c.octets ↔ ∀ id ∈ p.covered, v.componentValue id = w.componentValue id := by
  obtain ⟨hbp, hv⟩ := build_eq_ok.1 hb
  obtain ⟨hcp, hw⟩ := build_eq_ok.1 hc
  constructor
  · intro h
    -- the last lines are the same, so the others are
    have htext := congrArg String.toList (Text.utf8_injective h)
    rw [toList_text, toList_text, hbp, hcp] at htext
    have hlines := List.append_cancel_right htext
    have hfeeds := (lineFeeds_eq_of_le (forall₂_of_resolved hv hw hle)).2
      (congrArg (List.count '\n') hlines)
    rw [components_eq_of_lines_eq hfeeds hlines] at hv
    exact componentValue_eq_of_resolved hv hw
  · intro h
    rw [Except.ok.inj (hc.symm.trans (build_of_componentValue_eq hb fun id hid => (h id hid).symm))]

theorem exists_value_of_mem (hb : build v p = .ok b) {id : ComponentId} (hid : id ∈ p.covered) :
    ∃ s, v.componentValue id = .ok s := by
  obtain ⟨k, -, -, hvalue⟩ := Fallible.exists_right_of_mem (build_eq_ok.1 hb).2 hid
  exact ⟨k.value, hvalue⟩

/-- **Single lines** are determined by the octets. -/
theorem values_eq_of_lineFeed_not_mem (hp : p.Obtained) (hq : q.Obtained) (hb : build v p = .ok b)
    (hc : build w q = .ok c) (h : b.octets = c.octets)
    (hv : ∀ id s, v.componentValue id = .ok s → '\n' ∉ s.toList)
    (hw : ∀ id s, w.componentValue id = .ok s → '\n' ∉ s.toList) :
    ∀ id ∈ p.covered, v.componentValue id = w.componentValue id := by
  have hbase := (lines_eq_and_baseText_eq hp hq hb hc h).2
  have hcovered := SignatureParams.covered_eq_of_baseText_eq hp hq hbase
  refine values_eq_of_lineFeeds_eq hp hq hb hc h fun id hid => ?_
  -- both values exist, and neither has a line feed to count
  obtain ⟨s, hs⟩ := exists_value_of_mem hb hid
  obtain ⟨t, ht⟩ := exists_value_of_mem hc (hcovered ▸ hid)
  rw [hs, ht]
  change Except.ok (Text.lineFeeds s) = Except.ok (Text.lineFeeds t)
  rw [Text.lineFeeds_eq_zero.2 (hv id s hs), Text.lineFeeds_eq_zero.2 (hw id t ht)]

/-- **What the octets of a base determine.** The covered components in their order, what is signed
of the parameters, and the values, the latter exactly if they hold as many line feeds, one by
one. -/
theorem determined_by_octets (hp : p.Obtained) (hq : q.Obtained) (hb : build v p = .ok b)
    (hc : build w q = .ok c) (h : b.octets = c.octets) :
    p.covered = q.covered ∧ p.baseText = q.baseText
      ∧ ((∀ id ∈ p.covered, v.componentValue id = w.componentValue id)
        ↔ ∀ id ∈ p.covered, (v.componentValue id).map Text.lineFeeds
            = (w.componentValue id).map Text.lineFeeds) := by
  have hbase := (lines_eq_and_baseText_eq hp hq hb hc h).2
  refine ⟨SignatureParams.covered_eq_of_baseText_eq hp hq hbase, hbase, ?_, ?_⟩
  · intro hvalues id hid
    rw [hvalues id hid]
  · exact values_eq_of_lineFeeds_eq hp hq hb hc h

/-! ### Two requests with one base -/

namespace Forgery

/-- The field `x-a`. -/
def xA : FieldName := ⟨"x-a", Text.toLower_eq (by decide)⟩

/-- The field `x-b`. -/
def xB : FieldName := ⟨"x-b", Text.toLower_eq (by decide)⟩

theorem ne_contentDigest {n : FieldName} (h : n.text ≠ "content-digest") :
    n ≠ .contentDigest := by
  rintro rfl
  exact h FieldName.text_contentDigest

/-- The component of `x-a`. -/
def idA : ComponentId := .field xA (by decide) (ne_contentDigest (by decide))

/-- The component of `x-b`. -/
def idB : ComponentId := .field xB (by decide) (ne_contentDigest (by decide))

/-- Parameters that cover both fields. -/
def parameters : SignatureParams :=
  ⟨1, none, none, "hmac-sha256", "k", [idA, idB], none⟩

/-- The first value holds what looks like the line of the second field. -/
def original : RequestView where
  method := "GET"
  path := "/"
  headers := [(xA, "1\n\"x-b\": 2"), (xB, "3")]

/-- The line feed has moved to the second value. -/
def forgery : RequestView where
  method := "GET"
  path := "/"
  headers := [(xA, "1"), (xB, "2\n\"x-b\": 3")]

/-- The base of the original. -/
def originalBase : SignatureBase :=
  ⟨[⟨idA, "1\n\"x-b\": 2"⟩, ⟨idB, "3"⟩], parameters⟩

/-- The base of the forgery. -/
def forgedBase : SignatureBase :=
  ⟨[⟨idA, "1"⟩, ⟨idB, "2\n\"x-b\": 3"⟩], parameters⟩

theorem obtained_parameters : parameters.Obtained := by
  have hnew : SignatureParams.new [idA, idB] 1 .hmacSha256 "k" = .ok parameters := by
    rw [SignatureParams.new, if_neg (by decide), if_neg (by decide)]
    rfl
  exact .new hnew

theorem build_original : build original parameters = .ok originalBase := rfl

theorem build_forgery : build forgery parameters = .ok forgedBase := rfl

theorem octets_originalBase : originalBase.octets = forgedBase.octets := by
  have htext : originalBase.text = forgedBase.text := by decide
  rw [octets, octets, htext]

end Forgery

open Forgery in
/-- The two requests agree neither in the values nor in their line feeds. -/
theorem determined_by_octets_forgery :
    originalBase.octets = forgedBase.octets
      ∧ ((∀ id ∈ parameters.covered, original.componentValue id = forgery.componentValue id)
        ↔ ∀ id ∈ parameters.covered, (original.componentValue id).map Text.lineFeeds
            = (forgery.componentValue id).map Text.lineFeeds) :=
  ⟨octets_originalBase, (determined_by_octets obtained_parameters obtained_parameters build_original
    build_forgery octets_originalBase).2.2⟩

open Forgery in
/-- **One base for two requests.** The octets do not determine the values in general. -/
theorem not_values_determined_by_octets :
    ¬ ∀ (v w : RequestView) (p q : SignatureParams) (b c : SignatureBase),
      p.Obtained → q.Obtained → build v p = .ok b → build w q = .ok c → b.octets = c.octets →
        p.covered = q.covered
          ∧ (∀ id ∈ p.covered, v.componentValue id = w.componentValue id)
          ∧ p.baseText = q.baseText := by
  intro h
  obtain ⟨-, hvalues, -⟩ := h original forgery parameters parameters originalBase forgedBase
    obtained_parameters obtained_parameters build_original build_forgery octets_originalBase
  have hvalue : original.componentValue idA = forgery.componentValue idA :=
    hvalues idA List.mem_cons_self
  exact absurd hvalue (by decide)

end SignatureBase

end MessageSignatures
