namespace FederationSplit.Generation

def programName : String := "supergraph_to_subgraph"

def programVersion : String := "1.0.0"

def header (version commandLine federationUrl : String) : String :=
  s!"# Generated by {programName} v{version} : {commandLine}\n" ++
    s!"# Federation subgraph schema ({federationUrl})\n"

end FederationSplit.Generation
