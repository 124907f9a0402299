import WebDocs.Fragment.Artifact
import WebDocs.Report

namespace WebDocs

def defaultListingName : Text := "main.ll"

/-- Each file below its name. -/
def fileSections (files : Members Json) : List Fragment :=
  files.map fun (name, contents) =>
    [.element .artifactSection
      (.element .heading (Fragment.ofText name) ::
        (Artifact.fragment ⟨name, contents.plainText⟩))]

def listingFragment : Json → Logged Fragment
  | .null => return []
  | .str contents => return Artifact.fragment ⟨defaultListingName, contents⟩
  | .obj files => return Fragment.join "\n" (fileSections files)
  | payload => do
    Logged.report (.unexpectedListing payload)
    return []

end WebDocs
