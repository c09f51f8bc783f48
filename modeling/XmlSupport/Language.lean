/-!
# The languages of the client
-/

namespace XmlSupport.Language

/-- The editor's names of the languages: XML documents and XSL stylesheets. -/
def ids : List String := ["xml", "xsl"]

end XmlSupport.Language
