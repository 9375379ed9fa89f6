import CardDrawing.Location.Url
import CardDrawing.Proofs.ColorReferences
import CardDrawing.Proofs.Failures

/-!
# Parts of urls

Which urls are those of the web, and which ones have a host that is refused.
-/

namespace CardDrawing

namespace Url

/-- The scheme of a url is one of the web, in any letter case. -/
def NamesWeb (url : String) : Prop :=
  ∃ scheme rest, clean url.toList = scheme ++ ':' :: rest ∧
    (scheme.map Char.toLower = "http".toList ∨ scheme.map Char.toLower = "https".toList)

/-- The host of a url, as it is written. -/
def hostText (url : String) : List Char :=
  (splitHost (splitScheme (clean url.toList)).2).1

/-- A bracket, or a character that could be taken for a separator. -/
def isSuspect (c : Char) : Bool := c = '[' || c = ']' || Host.lookalikes.contains c.toNat

end Url

namespace Proofs

/-! ## Schemes -/

/-- Only a letter has a small letter for its small form. -/
lemma isAsciiLetter_of_toLower {c : Char} (h : 'a' ≤ c.toLower ∧ c.toLower ≤ 'z') :
    Text.isAsciiLetter c = true := by
  unfold Text.isAsciiLetter
  unfold Char.toLower at h
  split at h
  · rename_i hcapital
    have hA : 'A' ≤ c := hcapital.1
    have hZ : c ≤ 'Z' := hcapital.2
    simp [hA, hZ]
  · simp [h.1, h.2]

/-- A text begins with a scheme just if it spells it before a colon. -/
lemma splitScheme_eq_iff {cs word : List Char} (hne : word ≠ [])
    (hword : ∀ c ∈ word, 'a' ≤ c ∧ c ≤ 'z') :
    (Url.splitScheme cs).1 = word ↔
      ∃ scheme rest, cs = scheme ++ ':' :: rest ∧ scheme.map Char.toLower = word := by
  constructor
  · intro h
    unfold Url.splitScheme at h
    split at h
    · rename_i scheme rest first after hcut
      split at h
      · exact ⟨scheme, rest, (cutAt?_eq_some.mp hcut).1, h⟩
      · exact absurd h.symm hne
    · exact absurd h.symm hne
  · rintro ⟨scheme, rest, rfl, rfl⟩
    have hletter : ∀ c ∈ scheme, Text.isAsciiLetter c = true := by
      intro c hc
      exact isAsciiLetter_of_toLower (hword _ (List.mem_map_of_mem hc))
    have hcolon : ':' ∉ scheme := by
      intro hm
      exact absurd (hletter _ hm) (by decide)
    have hcut : Text.cutAt? ':' (scheme ++ ':' :: rest) = some (scheme, rest) :=
      cutAt?_eq_some.mpr ⟨rfl, hcolon⟩
    cases scheme with
    | nil => exact absurd rfl hne
    | cons first scheme =>
      have hall : (first :: scheme).all Url.isSchemeChar = true := by
        rw [List.all_eq_true]
        intro c hc
        simp [Url.isSchemeChar, hletter c hc]
      have hfirst : Text.isAsciiLetter first = true := hletter first List.mem_cons_self
      unfold Url.splitScheme
      rw [hcut]
      simp only [List.cons_append, hfirst, hall, Bool.and_self, if_true]

lemma scheme_ofText {url : String} {parts : Url} (h : Url.ofText url = .ok parts) :
    parts.scheme = (Url.splitScheme (Url.clean url.toList)).1 := by
  obtain ⟨_, -, h⟩ := bind_eq_ok.mp h
  obtain rfl := pure_eq_ok.mp h
  rfl

lemma namesWeb_iff {url : String} : Url.NamesWeb url ↔
    (Url.splitScheme (Url.clean url.toList)).1 = "http".toList ∨
      (Url.splitScheme (Url.clean url.toList)).1 = "https".toList := by
  rw [splitScheme_eq_iff (by simp) (by simp), splitScheme_eq_iff (by simp) (by simp), Url.NamesWeb]
  simp only [and_or_left, exists_or]

instance (url : String) : Decidable (Url.NamesWeb url) := decidable_of_iff _ namesWeb_iff.symm

/-- A url that splits is taken for one of the web just if its scheme is. -/
lemma isHttpUrl_eq {url : String} {parts : Url} (h : Url.ofText url = .ok parts) :
    isHttpUrl url = .ok (decide (Url.NamesWeb url)) := by
  have hread : isHttpUrl url =
      .ok (parts.scheme = "http".toList || parts.scheme = "https".toList) := by
    rw [isHttpUrl, h]
    rfl
  rw [hread, ← Bool.decide_or, scheme_ofText h]
  exact congrArg Except.ok (decide_eq_decide.mpr namesWeb_iff.symm)

/-! ## Hosts -/

lemma ofText_eq_error {url : String} {why : Error} :
    Url.ofText url = .error why ↔ Host.check (Url.hostText url) = .error why := by
  unfold Url.ofText Url.split Url.hostText
  rw [bind_eq_error]
  simp [pure, Except.pure]

lemma checkBracketed_fails (cs : List Char) :
    FailsOnly (·.kind = .value) (Host.checkBracketed cs) := by
  unfold Host.checkBracketed
  split_ifs
  · exact FailsOnly.ok
  · exact FailsOnly.error rfl
  · exact FailsOnly.ok
  · exact FailsOnly.error rfl
  · exact FailsOnly.error rfl

lemma checkBrackets_fails (host : List Char) :
    FailsOnly (·.kind = .value) (Host.checkBrackets host) := by
  unfold Host.checkBrackets
  dsimp only
  split
  · split_ifs
    · exact FailsOnly.error rfl
    · exact checkBracketed_fails _
  · exact checkBracketed_fails _

/-- A host is refused as a value that is none. -/
lemma checkHost_fails (host : List Char) : FailsOnly (·.kind = .value) (Host.check host) := by
  have hlast : FailsOnly (·.kind = .value)
      (if host.any fun c => Host.lookalikes.contains c.toNat then
        throw (.hostLookalike (String.ofList host)) else pure () : Except Error Unit) :=
    FailsOnly.ite (fun _ => FailsOnly.error rfl) fun _ => FailsOnly.ok
  unfold Host.check
  refine FailsOnly.ite (fun _ => FailsOnly.error rfl) fun _ => ?_
  exact FailsOnly.ite (fun _ => (checkBrackets_fails host).bind fun _ _ => hlast) fun _ => hlast

lemma ofText_fails (url : String) : FailsOnly (·.kind = .value) (Url.ofText url) :=
  fun why h => checkHost_fails _ why (ofText_eq_error.mp h)

/-- A host without suspect characters is not refused. -/
lemma suspect_of_checkHost {host : List Char} {why : Error} (h : Host.check host = .error why) :
    ∃ c ∈ host, Url.isSuspect c = true := by
  by_contra hnone
  have hplain : ∀ c ∈ host, c ≠ '[' ∧ c ≠ ']' ∧ c.toNat ∉ Host.lookalikes := by
    intro c hc
    have hc : ¬ Url.isSuspect c = true := fun hs => hnone ⟨c, hc, hs⟩
    simpa [Url.isSuspect, and_assoc] using hc
  have hopen : '[' ∉ host := fun hm => (hplain _ hm).1 rfl
  have hclose : ']' ∉ host := fun hm => (hplain _ hm).2.1 rfl
  have hlooks : ¬ ∃ c ∈ host, c.toNat ∈ Host.lookalikes := by
    rintro ⟨c, hc, hlook⟩
    exact (hplain c hc).2.2 hlook
  have hok : Host.check host = .ok () := by
    simp [Host.check, hopen, hclose, hlooks, pure, Except.pure]
  rw [hok] at h
  cases h

end Proofs

end CardDrawing
