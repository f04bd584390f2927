import Manuscript.Conversion
import Manuscript.Proofs.Docx.Pictures
import Manuscript.Proofs.Docx.Unpictured
import Manuscript.Proofs.Markdown.Address
import Manuscript.Proofs.Picture.Location

/-!
# Pictures next to the Markdown

A picture is meant to be found by the name of its file, in the folder of the Markdown that it stands
in. Markdown encodes the name and nothing decodes it, so that is so of names that encoding leaves
alone, and of no others (`embeds_named`): where they are found, they stand in the document in place
of their run (`Setting.Embeds`).
-/

namespace Manuscript

/-- A path on from a folder ends in the name that the relative path ends in. -/
theorem Path.name_join {b p : Path} (hp : p.isAbsolute = false) (hnames : p.names ≠ []) :
    (b.join p).name = p.name := by
  rw [join, if_neg (by simp [hp]), name, name, List.getLast?_append_of_ne_nil _ hnames]

theorem Picture.names_ne_nil {p : Path} (h : isSupported p = true) : p.names ≠ [] := by
  intro hnames
  rw [isSupported, Path.suffix, Path.name, hnames] at h
  revert h
  decide

theorem Picture.isSupported_join {b p : Path} (hp : p.isAbsolute = false)
    (h : isSupported p = true) : isSupported (b.join p) = true := by
  rwa [isSupported, Path.suffix, Path.name_join hp (names_ne_nil h)]

namespace Docx.Setting

open Relationship (Distinct)

variable {s : Setting} {r : Layout.Run} {address : String} {p : Path}

theorem lookUp_of_locate (hlocate : Picture.locate s.base address = .ok (some p))
    (hsupported : Picture.isSupported p = true) {there : Bool}
    (hfile : s.files.isFile p = .ok there) : s.lookUp address = .ok (some (p, there)) :=
  lookUp_eq_some_iff.2 ⟨hlocate, hsupported, hfile⟩

/-- The picture in a file stands in place of a run, if it can be read and drawn: what is written is
    its drawing, which leads to a part with the content of the file. -/
def Embeds (s : Setting) (p : Path) (r : Layout.Run) : Prop :=
  ∀ d d' width content picture n, Distinct d.main.relationships →
    s.readPicture p = .ok (width, content, picture) →
    d.draw picture content p.name width = (d', .ok n) →
    Leads (s.run r) d [element "r" [] [n]] d' ∧
      ∃ number id name cx cy, n = Drawing.inline number id name cx cy ∧ d'.LeadsTo id content

theorem embeds_of_lookUp (hwanted : s.wanted? r = some address)
    (hfound : s.lookUp address = .ok (some (p, true))) : s.Embeds p r := by
  intro d d' width content picture n hids hread hdraw
  have hdrawing : Leads (s.drawing p) d (.ok n) d' := by
    rw [leads_drawing, hread]
    exact hdraw
  have hpicture : Leads (s.picture address) d ([element "r" [] [n]], true) d' := by
    rw [leads_picture, hfound]
    exact ⟨.ok n, hdrawing, rfl⟩
  have hrun : Leads (s.run r) d [element "r" [] [n]] d' :=
    (leads_run_picture hwanted).2 ⟨_, true, hpicture, rfl⟩
  exact ⟨hrun, Draft.leadsTo_draw hids hdraw⟩

end Docx.Setting

namespace Conversion

open Markdown (Token IsVerbatim readTarget)
open Picture (addressOf)
open Text (isAddressChar)

variable {c : Conversion} {fs : Files} {source : Source} {b : Path} {name : String}

/-- The token of a picture with an address becomes one run, which the picture is looked for of. -/
theorem exists_run_of_image (fs : Files) {t : Token} (ht : t.kind = .image) {address : String}
    (haddress : t.attributes.url = address) (hne : address ≠ "") (f : Layout.Format)
    (hembed : c.docx.embedImages = true) :
    ∃ n r, Node.ofInlineToken? t = some n ∧ Render.runs c.docx f [n] = [r] ∧
      (c.setting fs).wanted? r = some address := by
  obtain ⟨kind, raw, attributes, children⟩ := t
  obtain rfl : kind = .image := ht
  obtain rfl : attributes.url = address := haddress
  refine ⟨_, _, by rw [Node.ofInlineToken?], rfl, ?_⟩
  have hempty : attributes.url.isEmpty = false := by simpa using hne
  simp [Docx.Setting.wanted?, Layout.Run.isBreak, hembed, hempty, setting]

/-- The address that stands for a relative name without a scheme leads to the file of that name next
    to the Markdown if and only if there is nothing in the name to encode, and then the picture in
    that file is embedded. -/
theorem embeds_named (horigin : c.origin = .markdown source) (hfolder : source.folder? fs = some b)
    (hrelative : (Path.ofText name).isAbsolute = false)
    (hscheme : (Picture.splitScheme name.toList).1 = "") :
    let p := b.join (.ofText name)
    (IsVerbatim name.toList → ∀ rest, readTarget ('<' :: name.toList ++ '>' :: ')' :: rest) =
      some ({ url := (addressOf name).toList }, rest)) ∧
    Picture.locate (c.setting fs).base (addressOf name) =
      .ok (some (b.join (.ofText (addressOf name)))) ∧
    (Picture.locate (c.setting fs).base (addressOf name) = .ok (some p) ↔
      ∀ ch ∈ name.toList, isAddressChar ch = true) ∧
    ((∀ ch ∈ name.toList, isAddressChar ch = true) → c.docx.embedImages = true →
      Picture.isSupported (.ofText name) = true → fs.isFile p = .ok true →
      ∀ t : Token, t.kind = .image → t.attributes.url = addressOf name → ∀ f,
        ∃ n r, Node.ofInlineToken? t = some n ∧ Render.runs c.docx f [n] = [r] ∧
          (c.setting fs).Embeds p r) := by
  intro p
  have hbase : (c.setting fs).base = some b := by
    rw [setting, horigin]
    exact hfolder
  rw [hbase]
  have hiff := Picture.locate_addressOf_iff (b := b) hrelative hscheme
  refine ⟨fun hverbatim rest => ?_, Picture.locate_addressOf hrelative hscheme, hiff,
    fun haddress hembed hsupported hfile t ht hurl f => ?_⟩
  · rw [Markdown.readTarget_bracketed hverbatim, Picture.toList_addressOf]
  · -- A name with the suffix of a picture is not empty, and neither is its address.
    have hne : addressOf name ≠ "" := by
      rw [Picture.addressOf_eq_self haddress]
      rintro rfl
      exact absurd rfl (Picture.names_ne_nil hsupported)
    obtain ⟨n, r, hn, hr, hwanted⟩ := exists_run_of_image fs ht hurl hne f hembed
    refine ⟨n, r, hn, hr, Docx.Setting.embeds_of_lookUp hwanted ?_⟩
    refine Docx.Setting.lookUp_of_locate ?_ (Picture.isSupported_join hrelative hsupported) hfile
    rw [hbase]
    exact hiff.2 haddress

/-- A picture of three dots by two that has nothing to encode in its name, in a document that holds
    nothing else. -/
theorem embeds_named_plain :
    let content : ByteArray := ⟨#[0x47, 0x49, 0x46, 0x38, 0x37, 0x61, 3, 0, 2, 0]⟩
    let fs : Files := { top := .folder [("doc.md", .file .empty), ("a.gif", .file content)] }
    let source : Source := .path (.ofText "doc.md")
    let c : Conversion := { origin := .markdown source }
    let t : Token := .branch .image [.leaf .text "alt"] { url := "a.gif" }
    (source.folder? fs = some {} ∧ (Path.ofText "a.gif").isAbsolute = false ∧
      (Picture.splitScheme "a.gif".toList).1 = "") ∧
    ∃ n r m d id, Node.ofInlineToken? t = some n ∧ Render.runs c.docx .plain [n] = [r] ∧
      Docx.Leads ((c.setting fs).run r) default [Docx.element "r" [] [m]] d ∧
      (∃ number name cx cy, m = Docx.Drawing.inline number id name cx cy) ∧
      d.LeadsTo id content := by
  intro content fs source c t
  have hfolder : source.folder? fs = some {} := by decide
  have hrelative : (Path.ofText "a.gif").isAbsolute = false := by decide
  have hscheme : (Picture.splitScheme "a.gif".toList).1 = "" := by decide
  have hfile : fs.isFile (.ofText "a.gif") = .ok true := by decide +kernel
  have hread : (c.setting fs).readPicture (.ofText "a.gif") =
      .ok (3657600, content, ⟨.gif, some 3, some 2, 72, 72⟩) := by decide +kernel
  have hdraw : ((default : Docx.Draft).draw ⟨.gif, some 3, some 2, 72, 72⟩ content "a.gif"
      3657600).2.isOk = true := by decide +kernel
  cases hmade : ((default : Docx.Draft).draw ⟨.gif, some 3, some 2, 72, 72⟩ content "a.gif"
      3657600).2 with
  | error f =>
    rw [hmade] at hdraw
    cases hdraw
  | ok m =>
    obtain ⟨-, -, -, h⟩ := embeds_named (c := c) rfl hfolder hrelative hscheme
    obtain ⟨n, r, hn, hr, hembeds⟩ :=
      h (List.all_eq_true.1 (by decide)) rfl (by decide) hfile t rfl (by decide) .plain
    obtain ⟨hrun, number, id, name, cx, cy, rfl, hleads⟩ :=
      hembeds default _ _ _ _ _ List.Pairwise.nil hread (Prod.ext rfl hmade)
    exact ⟨⟨hfolder, hrelative, hscheme⟩, n, r, _, _, id, hn, hr, hrun, ⟨_, _, _, _, rfl⟩, hleads⟩

end Conversion

end Manuscript
