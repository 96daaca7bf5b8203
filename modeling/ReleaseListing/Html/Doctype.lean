import ReleaseListing.Html.Token
import ReleaseListing.Text.Split

/-!
# Document types

Pages without a document type, or with that of an old version of HTML, let a table stand in a
paragraph; all others end the paragraph in front of the table.
-/

namespace ReleaseListing.Html

/-- How public identifiers of old document types start. -/
def oldPublicIds : List String :=
  ["-//advasoft ltd//dtd html 3.0 aswedit + extensions//",
   "-//as//dtd html 3.0 aswedit + extensions//",
   "-//ietf//dtd html 2.0 level 1//", "-//ietf//dtd html 2.0 level 2//",
   "-//ietf//dtd html 2.0 strict level 1//", "-//ietf//dtd html 2.0 strict level 2//",
   "-//ietf//dtd html 2.0 strict//", "-//ietf//dtd html 2.0//", "-//ietf//dtd html 2.1e//",
   "-//ietf//dtd html 3.0//", "-//ietf//dtd html 3.2 final//", "-//ietf//dtd html 3.2//",
   "-//ietf//dtd html 3//", "-//ietf//dtd html level 0//", "-//ietf//dtd html level 1//",
   "-//ietf//dtd html level 2//", "-//ietf//dtd html level 3//",
   "-//ietf//dtd html strict level 0//", "-//ietf//dtd html strict level 1//",
   "-//ietf//dtd html strict level 2//", "-//ietf//dtd html strict level 3//",
   "-//ietf//dtd html strict//", "-//ietf//dtd html//",
   "-//metrius//dtd metrius presentational//",
   "-//microsoft//dtd internet explorer 2.0 html strict//",
   "-//microsoft//dtd internet explorer 2.0 html//",
   "-//microsoft//dtd internet explorer 2.0 tables//",
   "-//microsoft//dtd internet explorer 3.0 html strict//",
   "-//microsoft//dtd internet explorer 3.0 html//",
   "-//microsoft//dtd internet explorer 3.0 tables//",
   "-//netscape comm. corp.//dtd html//", "-//netscape comm. corp.//dtd strict html//",
   "-//o'reilly and associates//dtd html 2.0//",
   "-//o'reilly and associates//dtd html extended 1.0//",
   "-//o'reilly and associates//dtd html extended relaxed 1.0//",
   "-//softquad software//dtd hotmetal pro 6.0::19990601::extensions to html 4.0//",
   "-//softquad//dtd hotmetal pro 4.0::19971010::extensions to html 4.0//",
   "-//spyglass//dtd html 2.0 extended//", "-//sq//dtd html 2.0 hotmetal + extensions//",
   "-//sun microsystems corp.//dtd hotjava html//",
   "-//sun microsystems corp.//dtd hotjava strict html//",
   "-//w3c//dtd html 3 1995-03-24//", "-//w3c//dtd html 3.2 draft//",
   "-//w3c//dtd html 3.2 final//", "-//w3c//dtd html 3.2//", "-//w3c//dtd html 3.2s draft//",
   "-//w3c//dtd html 4.0 frameset//", "-//w3c//dtd html 4.0 transitional//",
   "-//w3c//dtd html experimental 19960712//", "-//w3c//dtd html experimental 970421//",
   "-//w3c//dtd w3 html//", "-//w3o//dtd w3 html 3.0//", "-//webtechs//dtd mozilla html 2.0//",
   "-//webtechs//dtd mozilla html//"]

/-- Whole public identifiers of old document types. -/
def oldWholePublicIds : List String :=
  ["-//w3o//dtd w3 html strict 3.0//en//", "-/w3c/dtd html 4.0 transitional/en", "html"]

/-- How public identifiers start that are old if no system identifier follows. -/
def oldLonePublicIds : List String :=
  ["-//w3c//dtd html 4.01 frameset//", "-//w3c//dtd html 4.01 transitional//"]

/-- System identifiers of old document types. -/
def oldSystemIds : List String :=
  ["http://www.ibm.com/data/dtd/v11/ibmxhtml1-transitional.dtd"]

/-- Whether a page of this type lets a table stand in a paragraph. -/
def Doctype.keepsTableInParagraph (d : Doctype) : Bool :=
  let folded (id : String) : List Char := Text.asciiLower id.toList
  let startsWithAny (starts : List String) (text : List Char) : Bool :=
    starts.any fun start => start.toList.isPrefixOf text
  d.broken || d.name != some "html" ||
    (d.systemId.map folded).any (fun id => oldSystemIds.contains (String.ofList id)) ||
    (d.publicId.map folded).any fun id =>
      oldWholePublicIds.contains (String.ofList id) || startsWithAny oldPublicIds id ||
        (d.systemId.isNone && startsWithAny oldLonePublicIds id)

end ReleaseListing.Html
