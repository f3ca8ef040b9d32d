namespace GraphicsProfile.WebGL

/-- The name of the preset profile. -/
def profileName : String := "WebGL 1.0"

def componentTypeCodes : List (String × UInt32) :=
  [("BYTE", 5120), ("UNSIGNED_BYTE", 5121), ("SHORT", 5122), ("UNSIGNED_SHORT", 5123),
   ("INT", 5124), ("UNSIGNED_INT", 5125), ("FLOAT", 5126)]

def variableTypeCodes : List (String × UInt32) :=
  [("FLOAT_VEC2", 35664), ("FLOAT_VEC3", 35665), ("FLOAT_VEC4", 35666), ("INT_VEC2", 35667),
   ("INT_VEC3", 35668), ("INT_VEC4", 35669), ("BOOL", 35670), ("BOOL_VEC2", 35671),
   ("BOOL_VEC3", 35672), ("BOOL_VEC4", 35673), ("FLOAT_MAT2", 35674), ("FLOAT_MAT3", 35675),
   ("FLOAT_MAT4", 35676), ("SAMPLER_2D", 35678), ("SAMPLER_CUBE", 35680)]

def primitiveModeCodes : List (String × UInt32) :=
  [("POINTS", 0), ("LINES", 1), ("LINE_LOOP", 2), ("LINE_STRIP", 3), ("TRIANGLES", 4),
   ("TRIANGLE_STRIP", 5), ("TRIANGLE_FAN", 6)]

def bufferTargetCodes : List (String × UInt32) :=
  [("ARRAY_BUFFER", 34962), ("ELEMENT_ARRAY_BUFFER", 34963)]

def textureCodes : List (String × UInt32) :=
  [("TEXTURE_2D", 3553), ("ALPHA", 6406), ("RGB", 6407), ("RGBA", 6408), ("LUMINANCE", 6409),
   ("LUMINANCE_ALPHA", 6410), ("NEAREST", 9728), ("LINEAR", 9729),
   ("NEAREST_MIPMAP_NEAREST", 9984), ("LINEAR_MIPMAP_NEAREST", 9985),
   ("NEAREST_MIPMAP_LINEAR", 9986), ("LINEAR_MIPMAP_LINEAR", 9987), ("REPEAT", 10497),
   ("CLAMP_TO_EDGE", 33071), ("MIRRORED_REPEAT", 33648)]

def renderStateCodes : List (String × UInt32) :=
  [("CULL_FACE", 2884), ("DEPTH_TEST", 2929), ("BLEND", 3042), ("SCISSOR_TEST", 3089),
   ("POLYGON_OFFSET_FILL", 32823), ("SAMPLE_ALPHA_TO_COVERAGE", 32926)]

def codes : List (String × UInt32) :=
  componentTypeCodes ++ variableTypeCodes ++ primitiveModeCodes ++ bufferTargetCodes ++
    textureCodes ++ renderStateCodes

end GraphicsProfile.WebGL
