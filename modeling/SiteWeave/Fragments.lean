import SiteWeave.Template
import SiteWeave.Page.Weave

/-!
# Fragments

The shared fragments of a site are templates with names, kept in the order of their names.

## Main definitions

* `Fragments`: names with their templates.
* `Fragments.insert`, `Fragments.get`: one fragment; a name that is not there has the empty
  template.
* `Fragments.expand`: the fragments that a page needs, expanded against its context.

## Main results

* `Fragments.get_insert`: an inserted fragment is found, and the others stay.
-/

namespace SiteWeave

/-- Names with their templates, in increasing order of the names. -/
structure Fragments where
  entries : List (String × String) := []
deriving DecidableEq, Repr

namespace Fragments

/-- The entries with one more; the template that its name had before is replaced. -/
def insertEntry (name template : String) : List (String × String) → List (String × String)
  | [] => [(name, template)]
  | (n, t) :: rest =>
    if name = n then (name, template) :: rest
    else if name < n then (name, template) :: (n, t) :: rest
    else (n, t) :: insertEntry name template rest

/-- The fragments with one more. -/
def insert (fragments : Fragments) (name template : String) : Fragments :=
  ⟨insertEntry name template fragments.entries⟩

/-- The template among entries, empty for an unknown name. -/
def getEntry (name : String) : List (String × String) → String
  | [] => ""
  | (n, t) :: rest => if name = n then t else getEntry name rest

/-- The template of a name, empty for an unknown one. -/
def get (fragments : Fragments) (name : String) : String :=
  getEntry name fragments.entries

/-- The number of fragments. -/
def size (fragments : Fragments) : Nat :=
  fragments.entries.length

/-- Whether there are no fragments. -/
def isEmpty (fragments : Fragments) : Bool :=
  fragments.entries.isEmpty

/-- The names of the fragments that are woven into pages. -/
def navName : String := "nav"

@[inherit_doc navName] def footerLinksName : String := "footer-links"

@[inherit_doc navName] def cookieConsentName : String := "cookie-consent"

@[inherit_doc navName] def scriptsName : String := "scripts"

/-- The fragments that a page needs, expanded against its context. -/
def expand (fragments : Fragments) (context : Json) : PageFragments :=
  let expanded (name : String) := Template.expand (fragments.get name).toList context
  { nav := expanded navName
    footerLinks := expanded footerLinksName
    cookieConsent := expanded cookieConsentName
    scripts := expanded scriptsName }

theorem getEntry_insertEntry (name template other : String) (entries : List (String × String)) :
    getEntry other (insertEntry name template entries) =
      if other = name then template else getEntry other entries := by
  induction entries with
  | nil => simp [insertEntry, getEntry]
  | cons entry rest ih =>
    obtain ⟨n, t⟩ := entry
    simp only [insertEntry]
    split
    · next h =>
      subst h
      by_cases ho : other = name <;> simp [getEntry, ho]
    · next h =>
      split
      · simp [getEntry]
      · by_cases ho : other = n
        · have hne : other ≠ name := fun he => h (he.symm.trans ho)
          simp [getEntry, ho, Ne.symm h]
        · simp [getEntry, ho, ih]

/-- An inserted fragment is found, and the others stay. -/
theorem get_insert (fragments : Fragments) (name template other : String) :
    (fragments.insert name template).get other =
      if other = name then template else fragments.get other :=
  getEntry_insertEntry name template other fragments.entries

end Fragments

end SiteWeave
