import Mathlib.Tactic.Common
import LiterateLinks.Publish.Basic
import LiterateLinks.Proofs.Document.Equality
import LiterateLinks.Proofs.Document.Stamp
import LiterateLinks.Proofs.Html.Page
import LiterateLinks.Proofs.Link.Tags
import LiterateLinks.Proofs.Link.Written

/-!
# Publishing a page again

A published page can be published again by force.  On trees nothing is left to do: the tree that was
written is settled and marked, so linking and marking it again changes nothing.  What is published
again, however, is the text of the page, and the tree that is read from it need not be the tree that
was written.  Replacements are put wherever a marker stood, and not every element can hold them: a
paragraph ends where the list of a popup begins.

The second page is the first one whenever the tree that was written is read back.  This holds of
every tidy page that loses nothing when it is read (`publish_publish_of_tidy`).  In general, the
page comes out again with nothing counted exactly when the tree read from it holds no marker and is
written, once marked, as the page.  For a marked page that reading and writing leave as it is, the
page comes out again exactly when it shows no marker.  The file ends with a page that comes out
again and one that does not.
-/

namespace LiterateLinks

namespace Linker

/-- A marked document is still marked when it is linked. -/
lemma markProcessed_link {linker : Linker} {document : Document} {stylesheet : Option String}
    (h : document.markProcessed stylesheet = document) :
    (linker.link document).value.1.markProcessed stylesheet = (linker.link document).value.1 := by
  rw [link_eq_linkedOnce, linkedOnce]
  refine Document.markProcessed_replaceTextsIn ?_ h
  intro name hname text
  exact tagsNamedIn_linkedNodes (by revert name; decide) linker _ text

end Linker

/-! ## The tree of a published page -/

/-- The tree that is written when a page is published. -/
def Resolution.published (r : Resolution) (options : PublishOptions) (source : String) : Document :=
  (r.linker.link (.parse source)).value.1.markProcessed options.stylesheet?

section Published

variable {r : Resolution} {options : PublishOptions} {source : String}

/-- By force every page is published. -/
lemma publish_force (hleft : r.delimiters.left ≠ "") (hright : r.delimiters.right ≠ "") :
    (publish r { options with force := true } source).value =
      .ok ⟨(r.published options source).serialize, (r.linker.link (.parse source)).value.2⟩ := by
  unfold publish
  rw [Resolution.ofResolution_eq_ok hleft hright]
  simp only [Bool.not_true, Bool.and_false, Bool.false_eq_true, if_false]
  rfl

/-- A published page is the text of its tree. -/
lemma html_of_publish_eq_ok (hleft : r.delimiters.left ≠ "") (hright : r.delimiters.right ≠ "")
    {page : Published} (h : (publish r options source).value = .ok page) :
    (r.published options source).serialize = page.html := by
  unfold publish at h
  rw [Resolution.ofResolution_eq_ok hleft hright] at h
  simp only at h
  split at h
  · cases h
  · rw [← Except.ok.inj h, Linker.finish, Resolution.published]

/-- The tree of a published page holds no marker. -/
lemma isSettled_published (hd : r.delimiters.Unobtrusive)
    (hcommands : ∀ commands, r.policy = .mapped commands →
      ∀ name ∈ commands.names, r.delimiters.Clean name.toList) :
    r.linker.IsSettled (r.published options source).children := by
  intro text htext
  rcases Document.mem_shownTextsIn_markProcessed htext with htext | rfl
  · exact Linker.isSettled_link hd hcommands _ text htext
  · -- a line break has no room for a marker
    rw [Linker.settles_linker_iff]
    refine hd.clean_of_closing fun x y hxy => ?_
    have hlength := congrArg List.length hxy
    simp at hlength
    omega

/-- A page is published again as it is, with nothing counted, exactly when the tree that is read
holds no marker and is written, once marked, as that page. -/
lemma publish_force_eq_iff (hd : r.delimiters.Unobtrusive) :
    (publish r { options with force := true } source).value = .ok ⟨source, {}⟩ ↔
      r.linker.IsSettled (Document.parse source).children ∧
        ((Document.parse source).markProcessed options.stylesheet?).serialize = source := by
  rw [publish_force hd.left_ne hd.right_ne, Except.ok.injEq, Published.mk.injEq]
  constructor
  · rintro ⟨hhtml, hreport⟩
    have hsettled : r.linker.IsSettled (Document.parse source).children :=
      Linker.isSettled_of_report (by rw [hreport]) (by rw [hreport])
    rw [Resolution.published, Linker.link_of_isSettled hsettled] at hhtml
    exact ⟨hsettled, hhtml⟩
  · rintro ⟨hsettled, hhtml⟩
    rw [Resolution.published, Linker.link_of_isSettled hsettled]
    exact ⟨hhtml, rfl⟩

/-- A page from which the tree that was written is read back comes out again. -/
lemma publish_force_of_parse_eq (hd : r.delimiters.Unobtrusive)
    (hcommands : ∀ commands, r.policy = .mapped commands →
      ∀ name ∈ commands.names, r.delimiters.Clean name.toList) {html : String}
    (hhtml : (r.published options source).serialize = html)
    (hread : Document.parse html = r.published options source) :
    (publish r { options with force := true } html).value = .ok ⟨html, {}⟩ := by
  have hmarked : (r.published options source).markProcessed options.stylesheet? =
      r.published options source := Document.markProcessed_markProcessed _ _
  rw [publish_force_eq_iff hd, hread, hmarked]
  exact ⟨isSettled_published hd hcommands, hhtml⟩

/-- A marked page that is left as it is by reading and writing, and that comes out again, shows no
marker. -/
lemma isSettled_of_publish_force (hd : r.delimiters.Unobtrusive) {more : List Char}
    (hleft : r.delimiters.left.toList = '<' :: '<' :: more) {report : LinkReport}
    (hmarked : (Document.parse source).markProcessed options.stylesheet? = .parse source)
    (hwritten : (Document.parse source).serialize = source)
    (h : (publish r { options with force := true } source).value = .ok ⟨source, report⟩) :
    r.linker.IsSettled (Document.parse source).children := by
  rw [publish_force hd.left_ne hd.right_ne, Except.ok.injEq, Published.mk.injEq] at h
  have hhtml := h.1
  rw [Resolution.published, Linker.markProcessed_link hmarked] at hhtml
  exact Linker.isSettled_of_serialize_eq hleft hd (hhtml.trans hwritten.symm)

end Published

/-- The default delimiters are unobtrusive. -/
lemma unobtrusive_default : ({} : Resolution).delimiters.Unobtrusive := by decide

/-- When a published page is published again by force.  The same page comes out whenever the tree
that was written is read back.  It comes out with nothing counted exactly when the tree that is read
holds no marker and is written, once marked, as the page.  If the page carries its mark and is left
as it is by reading and writing, it comes out exactly when it shows no marker. -/
theorem publish_publish_iff {options : PublishOptions} {source : String} {page : Published}
    (h : (publish {} options source).value = .ok page) :
    let linker := ({} : Resolution).linker
    let tree := Document.parse page.html
    let again := (publish {} { options with force := true } page.html).value
    (tree = ({} : Resolution).published options source → again = .ok ⟨page.html, {}⟩) ∧
      (again = .ok ⟨page.html, {}⟩ ↔ linker.IsSettled tree.children ∧
        (tree.markProcessed options.stylesheet?).serialize = page.html) ∧
      (tree.markProcessed options.stylesheet? = tree → tree.serialize = page.html →
        ((∃ report, again = .ok ⟨page.html, report⟩) ↔ linker.IsSettled tree.children)) := by
  have hd := unobtrusive_default
  have hleft : ({} : Resolution).delimiters.left.toList = ['<', '<'] := by decide
  have hhtml := html_of_publish_eq_ok hd.left_ne hd.right_ne h
  refine ⟨publish_force_of_parse_eq hd (by rintro commands ⟨⟩) hhtml, publish_force_eq_iff hd,
    fun hmarked hwritten => ⟨?_, fun hsettled => ⟨{}, ?_⟩⟩⟩
  · rintro ⟨report, hreport⟩
    exact isSettled_of_publish_force hd hleft hmarked hwritten hreport
  · exact (publish_force_eq_iff hd).2 ⟨hsettled, by rw [hmarked, hwritten]⟩

/-- A tidy page comes out again, with nothing counted, if nothing of it is lost when it is read: no
template in it has contents, and no element in it leaves out a line feed. -/
theorem publish_publish_of_tidy {r : Resolution} (hd : r.delimiters.Unobtrusive)
    (hcommands : ∀ commands, r.policy = .mapped commands →
      ∀ name ∈ commands.names, r.delimiters.Clean name.toList)
    {options : PublishOptions} {source : String} {page : Published}
    (h : (publish r options source).value = .ok page) (htidy : (r.published options source).Tidy)
    (hlost : (r.published options source).reread = r.published options source) :
    (publish r { options with force := true } page.html).value = .ok ⟨page.html, {}⟩ := by
  have hhtml := html_of_publish_eq_ok hd.left_ne hd.right_ne h
  have hread : Document.parse page.html = r.published options source := by
    rw [← hhtml, htidy.parse_serialize, hlost]
  exact publish_force_of_parse_eq hd hcommands hhtml hread

/-- A paste in a paragraph gives such a page. -/
example :
    let published := ({} : Resolution).published {} "<p><<=a>>"
    published.Tidy ∧ published.reread = published := by
  intro published
  let page : Html.Page :=
    { head := [Document.generatorMeta, .text "\n"]
      body := [.ofTag "p" [] [.ofTag "a" [("href", "#a")] [.text "=a"]]] }
  have hpage : page.document = published := by decide +kernel
  refine ⟨⟨page, by decide +kernel, hpage⟩, ?_⟩
  rw [← hpage]
  decide +kernel

/-! ## Popups in preformatted text and in paragraphs -/

/-- The published page of a wildcard paste that stands alone in an element of the given name. -/
def wildcardPage (element : String) : String :=
  "<html><head><meta name=\"generator\" content=\"nanolp-pub\">\n</head><body><" ++ element ++
    "><span class=\"popup\">=*<div><span id=\"caption\">Matched:</span></div></span></" ++
    element ++ "></body></html>"

/-- A result with a page of the given text is that page with its report. -/
lemma exists_eq_ok_of_html {result : Except PublishFault Published} {html : String}
    (h : result.toOption.map (·.html) = some html) : ∃ report, result = .ok ⟨html, report⟩ := by
  cases result with
  | error fault => cases h
  | ok page =>
    obtain rfl := Option.some.inj h
    exact ⟨page.report, rfl⟩

/-- In preformatted text a popup is read back, so the page comes out again. -/
theorem publish_publish_iff_pre :
    ∃ page, (publish {} {} "<pre><<=*>>").value = .ok page ∧
      Document.parse page.html = ({} : Resolution).published {} "<pre><<=*>>" ∧
      (publish {} { force := true } page.html).value = .ok ⟨page.html, {}⟩ := by
  have hfirst : (publish {} {} "<pre><<=*>>").value.toOption.map (·.html) =
      some (wildcardPage "pre") := by decide +kernel
  have hread : Document.parse (wildcardPage "pre") =
      ({} : Resolution).published {} "<pre><<=*>>" := by decide +kernel
  obtain ⟨report, hpage⟩ := exists_eq_ok_of_html hfirst
  exact ⟨⟨wildcardPage "pre", report⟩, hpage, hread, (publish_publish_iff hpage).1 hread⟩

/-- A page with a wildcard paste in a paragraph. -/
def wildcardParagraph : String :=
  "<html><head></head><body><p>&lt;&lt;=*&gt;&gt;</p></body></html>"

/-- In a paragraph a popup is not read back, because the paragraph ends where the list of the popup
begins.  The source is the same tree when it is written and read again, and yet its page does not
come out again. -/
theorem publish_publish_ne_paragraph :
    Document.parse (Document.parse wildcardParagraph).serialize = .parse wildcardParagraph ∧
      ∃ page again, (publish {} {} wildcardParagraph).value = .ok page ∧
        (publish {} { force := true } page.html).value = .ok again ∧ again.html ≠ page.html := by
  have hstable : (Document.parse wildcardParagraph).serialize = wildcardParagraph := by
    decide +kernel
  have hfirst : (publish {} {} wildcardParagraph).value.toOption.map (·.html) =
      some (wildcardPage "p") := by decide +kernel
  have hsecond : (publish {} { force := true } (wildcardPage "p")).value.toOption.map (·.html) =
      some ("<html><head><meta name=\"generator\" content=\"nanolp-pub\">\n</head><body>" ++
        "<p><span class=\"popup\">=*</span></p><div><span id=\"caption\">Matched:</span></div>" ++
        "<p></p></body></html>") := by decide +kernel
  obtain ⟨report, hpage⟩ := exists_eq_ok_of_html hfirst
  obtain ⟨report', hagain⟩ := exists_eq_ok_of_html hsecond
  refine ⟨by rw [hstable], ⟨wildcardPage "p", report⟩, ⟨_, report'⟩, hpage, hagain, ?_⟩
  dsimp only
  decide +kernel

end LiterateLinks
