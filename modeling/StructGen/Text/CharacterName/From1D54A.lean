import StructGen.Text.CharacterName.Run

/-!
# Names of the characters from U+1D54A
-/

namespace StructGen.Text.CharacterName

/-- The names of the characters from U+1D54A up to U+E01EF. -/
def namesFrom1D54A : List Run := [
  ⟨0x1D54A, ["vfsmeS;3T;3U;3V;3W;3X;3Y;;2oA;3B;3C;3D;3E;3F;3G;3H;3I;3J;3K;3L;3M;3N;3O;3P;3Q;3R;",
    "3S;3T;3U;3V;3W;3X;3Y;3Z;1BOLD FRAKTUReA;4B;4C;4D;4E;4F;4G;4H;4I;4J;4K;4L;4M;4N;4O;4P;4Q;",
    "4R;4S;4T;4U;4V;4W;4X;4Y;4Z;3oA;4B;4C;4D;4E;4F;4G;4H;4I;4J;4K;4L;4M;4N;4O;4P;4Q;4R;4S;4T;",
    "4U;4V;4W;4X;4Y;4Z;1xkeA;3B;3C;3D;3E;3F;3G;3H;3I;3J;3K;3L;3M;3N;3O;3P;3Q;3R;3S;3T;3U;3V;3W;",
    "3X;3Y;3Z;2oA;3B;3C;3D;3E;3F;3G;3H;3I;3J;3K;3L;3M;3N;3O;3P;3Q;3R;3S;3T;3U;3V;3W;3X;3Y;3Z;",
    "2BOLDeA;4B;4C;4D;4E;4F;4G;4H;4I;4J;4K;4L;4M;4N;4O;4P;4Q;4R;4S;4T;4U;4V;4W;4X;4Y;4Z;3oA;4B;",
    "4C;4D;4E;4F;4G;4H;4I;4J;4K;4L;4M;4N;4O;4P;4Q;4R;4S;4T;4U;4V;4W;4X;4Y;4Z;2ITALICeA;4B;4C;",
    "4D;4E;4F;4G;4H;4I;4J;4K;4L;4M;4N;4O;4P;4Q;4R;4S;4T;4U;4V;4W;4X;4Y;4Z;3oA;4B;4C;4D;4E;4F;",
    "4G;4H;4I;4J;4K;4L;4M;4N;4O;4P;4Q;4R;4S;4T;4U;4V;4W;4X;4Y;4Z;2BOLD ITALICeA;5B;5C;5D;5E;5F;",
    "5G;5H;5I;5J;5K;5L;5M;5N;5O;5P;5Q;5R;5S;5T;5U;5V;5W;5X;5Y;5Z;4oA;5B;5C;5D;5E;5F;5G;5H;5I;",
    "5J;5K;5L;5M;5N;5O;5P;5Q;5R;5S;5T;5U;5V;5W;5X;5Y;5Z;1MONOSPACEeA;3B;3C;3D;3E;3F;3G;3H;3I;",
    "3J;3K;3L;3M;3N;3O;3P;3Q;3R;3S;3T;3U;3V;3W;3X;3Y;3Z;2oA;3B;3C;3D;3E;3F;3G;3H;3I;3J;3K;3L;",
    "3M;3N;3O;3P;3Q;3R;3S;3T;3U;3V;3W;3X;3Y;3Z;1ITALICoDOTLESS I;4J;;;1BOLDeqe;3BETA;3GAMMA;",
    "3DELTA;3st;3ZETA;3ETA;3THETA;3IOTA;3KAPPA;3LAMDA;3MU;3NU;3XI;3wc;3PI;3RHO;3THETAyi;3xs;",
    "3TAU;3zj;3PHI;3CHI;3PSI;3wb;2NABLA;2oqe;3BETA;3GAMMA;3DELTA;3st;3ZETA;3ETA;3THETA;3IOTA;",
    "3KAPPA;3LAMDA;3MU;3NU;3XI;3wc;3PI;3RHO;3gxs;3xs;3TAU;3zj;3PHI;3CHI;3PSI;3wb;",
    "2PARTIAL DIFFERENTIAL;2styi;2THETAyi;2KAPPAyi;2PHIyi;2RHOyi;2PIyi;1ITALICeqe;3BETA;3GAMMA;",
    "3DELTA;3st;3ZETA;3ETA;3THETA;3IOTA;3KAPPA;3LAMDA;3MU;3NU;3XI;3wc;3PI;3RHO;3THETAyi;3xs;",
    "3TAU;3zj;3PHI;3CHI;3PSI;3wb;2NABLA;2oqe;3BETA;3GAMMA;3DELTA;3st;3ZETA;3ETA;3THETA;3IOTA;",
    "3KAPPA;3LAMDA;3MU;3NU;3XI;3wc;3PI;3RHO;3gxs;3xs;3TAU;3zj;3PHI;3CHI;3PSI;3wb;",
    "2PARTIAL DIFFERENTIAL;2styi;2THETAyi;2KAPPAyi;2PHIyi;2RHOyi;2PIyi;1BOLD ITALICeqe;4BETA;",
    "4GAMMA;4DELTA;4st;4ZETA;4ETA;4THETA;4IOTA;4KAPPA;4LAMDA;4MU;4NU;4XI;4wc;4PI;4RHO;4THETAyi;",
    "4xs;4TAU;4zj;4PHI;4CHI;4PSI;4wb;3NABLA;3oqe;4BETA;4GAMMA;4DELTA;4st;4ZETA;4ETA;4THETA;",
    "4IOTA;4KAPPA;4LAMDA;4MU;4NU;4XI;4wc;4PI;4RHO;4gxs;4xs;4TAU;4zj;4PHI;4CHI;4PSI;4wb;",
    "3PARTIAL DIFFERENTIAL;3styi;3THETAyi;3KAPPAyi;3PHIyi;3RHOyi;3PIyi;1xkBOLDeqe;4BETA;4GAMMA;",
    "4DELTA;4st;4ZETA;4ETA;4THETA;4IOTA;4KAPPA;4LAMDA;4MU;4NU;4XI;4wc;4PI;4RHO;4THETAyi;4xs;",
    "4TAU;4zj;4PHI;4CHI;4PSI;4wb;3NABLA;3oqe;4BETA;4GAMMA;4DELTA;4st;4ZETA;4ETA;4THETA;4IOTA;",
    "4KAPPA;4LAMDA;4MU;4NU;4XI;4wc;4PI;4RHO;4gxs;4xs;4TAU;4zj;4PHI;4CHI;4PSI;4wb;",
    "3PARTIAL DIFFERENTIAL;3styi;3THETAyi;3KAPPAyi;3PHIyi;3RHOyi;3PIyi;3ITALICeqe;5BETA;5GAMMA;",
    "5DELTA;5st;5ZETA;5ETA;5THETA;5IOTA;5KAPPA;5LAMDA;5MU;5NU;5XI;5wc;5PI;5RHO;5THETAyi;5xs;",
    "5TAU;5zj;5PHI;5CHI;5PSI;5wb;4NABLA;4oqe;5BETA;5GAMMA;5DELTA;5st;5ZETA;5ETA;5THETA;5IOTA;",
    "5KAPPA;5LAMDA;5MU;5NU;5XI;5wc;5PI;5RHO;5gxs;5xs;5TAU;5zj;5PHI;5CHI;5PSI;5wb;",
    "4PARTIAL DIFFERENTIAL;4styi;4THETAyi;4KAPPAyi;4PHIyi;4RHOyi;4PIyi;1BOLDeDIGAMMA;2oDIGAMMA;",
    ";;2shzz;3wd;3ze;3yq;3td;3tc;3xu;3xo;3sr;3vs;1smshzz;3wd;3ze;3yq;3td;3tc;3xu;3xo;3sr;3vs;",
    "1xkshzz;3wd;3ze;3yq;3td;3tc;3xu;3xo;3sr;3vs;2BOLDshzz;4wd;4ze;4yq;4td;4tc;4xu;4xo;4sr;4vs;",
    "1MONOSPACEshzz;3wd;3ze;3yq;3td;3tc;3xu;3xo;3sr;3vs;SIGNWRITINGtruc;1tquc;1HAND-CUPuc;",
    "1HAND-OVALuc;1tsuc;1tpuc;1trucBENT;1tqucBENT;1tryrUNDERucBENT;2ucxcKNUCKLE;3CUPPED;",
    "3HINGED;4uz;1tqucHINGE;1trucvj;1tqucvj;1trucvjBENT;4xcKNUCKLES;4HINGED;3zgvjHINGED;",
    "3HINGEDvjzg;3vjro;5ucBENT;5vjBENT;5CUPPED;5HINGED;4CROSSED;1tqucvjCROSSED;1trvjBENTwiuc;",
    "2ucBENTwivj;3vjyr;1tqucvjyr;1trucvjycyrBENT;4BENTyryc;4yrBENT;4HINGED SPREADyrSIDE;",
    "3zgvjHINGEDyrSIDE;7ro;3HINGEDvjzgyrSIDE;3vjzgSPREADyrFORWARD;4yrCUPPED;5rh;5HOOKED;",
    "5HINGED;2yrqtucvjyc;2ucvjroyrSIDE;7ro;7BENT;2vjyrHOOKEDuczg;2ucyrHOOKEDvjzg;",
    "3vjroHINGEDyrSIDE;4CROSSEDyrSIDE;4royrFORWARD;5CUPPEDyrFORWARD;2vjyrCUPPEDuczg;",
    "2ucyrCUPPEDvjzg;2vjyrrhuczg;6HINGED;2ucyrANGLED OUTvjzg;5INvjzg;4rhvjzg;3vjyrroHINGED;",
    "5ANGLED OUT;5ANGLED;2vjyrANGLED OUTuczg;7CROSSED;5uczg;2ucyrHOOKEDvjHINGED;1HAND-FLATtdtb;",
    "4BENT;4HINGED;4ro;5SPLIT;1HAND-CLAWtdtbro;1trtdtbroBENT;1tstdtbro;1HAND-FLATtctbSPREAD;",
    "2HEELtctbSPREAD;2tctbSPREADtdBENT;2HEELtctbSPREADtdBENT;2tctbSPREAD BENT;",
    "2HEELtctbSPREAD BENT;2tctbSPREADyrFORWARD;1HAND-CUPtctbSPREAD;5we;1tstctbSPREADwe;",
    "1HAND-OVALtctbSPREAD;1HAND-FLATtctbSPREAD HINGED;6yrSIDE;6NOyr;1HAND-FLAT;2qtPALM FACINGS;",
    "2HEEL;2yrSIDE;2HEELyrSIDE;2yrBENT;3FORWARD;2SPLITucyrSIDE;3rd;4yrSIDE;6BENT;3ux;",
    "1HAND-CLAW;2yrSIDE;2NOyr;2yrFORWARD;1HAND-HOOK CURLICUE;1HAND-HOOK;1HAND-CUPwe;1HAND-CUP;",
    "2weyrSIDE;2yrSIDE;2weNOyr;2NOyr;2weyrFORWARD;2yrFORWARD;1HAND-CURLICUEwe;1HAND-CURLICUE;",
    "1tq;1HAND-OVAL;2yrSIDE;2NOyr;2yrFORWARD;1tswe;3yrFORWARD;1ts;2o;2weyrSIDE;2yrSIDE;2weNOyr;",
    "2NOyr;2yrSIDE TOUCHINGuc;3qtvjxh;1tp;1trucvjxh;1tqucvjxh;1tsucvjxh;1tpucvjxh;1tsux;",
    "1trucvjxhBENT;5ro;1tsucvjxhro;1truxsn;4RIPPLEyc;5CURVED;4OTHERSrh;3zg;2yrUNDERuxzg;",
    "1tquxzg;1HAND-OVALuxzg;1tpuxzg;1truxxcKNUCKLE;3BENT;3TOUCHESyr;3yr;1tsuxyr;1truxucyr;",
    "1tsuxucyr;1tpuxucyrucyrOUT;6yr;1truxuc;1tquxuc;1tsuxuc;1tpuxuc;1trucvjux;1tqucvjux;",
    "1tsucvjux;2xh;1tpucvjux;1trucvjrsux;1tqucvjrsux;1trxhsn;1tsxhsnucyrtyvj;1tpxhsnvjyrucrs;",
    "1trxhzg;3xcKNUCKLE;3ux;1tqxhux;1HAND-OVALxhux;1tpxhux;1trxhvj;4ro;4xcKNUCKLES;3uc;3yr;",
    "1HAND-HOOKxhyr;1trucxhux;1tqucxhux;1HAND-CURLICUEucxhuxON;1HAND-HOOKucxhuxOUT;5IN;5UNDER;",
    "1HAND-CUPucxhux;1tsucxhux;1tpucxhuxOUT;4ux;1trvjsn;1tsvj;1trvjzg;1tqvjzg;1trvjxcKNUCKLE;",
    "3zgyrSIDE;1HAND-HOOKvjyr;1trvjyrux;3ux;3xhux;1tqvjxhux;1HAND-CURLICUEvjxhuxON;",
    "1HAND-CUPvjxhux;1tsvjxhux;1tpvjxhuxOUT;5IN;4ux;1tqvjxhuxBENT;1HAND-CLAWvjxhuxro;6SIDE;",
    "1HAND-HOOKvjxhuxroOUT;6IN;5ro;1tsucHINGED;1trucyrSIDE;1tsucyrSIDE;1trucyrSIDEyrse;6ro;",
    "6BENT;5ucBENT;5BOTH BENT;5ucHINGE;4FORWARDucyc;6BENT;4ty;4CURLICUE;4CURVEyrINSIDE;",
    "1HAND-CLAWucyrCURVEyrINSIDE;1trucyrCURVEyrUNDER;4rg;1HAND-CUPucyr;4we;1tsucyrwe;4up;3yr;",
    "4o;1tpucyrOUT;4IN;3yr;1tryr;3HEEL;3SIDEse;4ro;4BENT;3FORWARD;3qtucvj;4vjxh;4xhux;",
    "3UNDERzetb;3wizetb;3UNDERyqtb;4tdtb;3witdxcKNUCKLES;1tr;2HEEL;1TOUCHxt;2MULTIPLE;2qt;",
    "1GRASPxt;2MULTIPLE;2qt;1STRIKExt;2MULTIPLE;2qt;1BRUSHxt;2MULTIPLE;2qt;1RUBxt;2MULTIPLE;",
    "2qt;1SURFACE SYMBOLS;2qt;1SQUEEZEupxt;2oxt;2upMULTIPLE;2oMULTIPLE;2SEQUENTIAL;1FLICKupxt;",
    "2oxt;2upMULTIPLE;2oMULTIPLE;2SEQUENTIAL;1SQUEEZE FLICKqg;1MOVEMENT-HINGEzgsnup;4o;",
    "3SEQUENTIAL;2snSEQUENTIAL;2zgsnqgup;5o;2SIDEyuSIDE SCISSORS;1vmFINGER CONTACT;",
    "1vlFINGER CONTACT;1vmxtyco;4vh;4up;4LARGEST;3WRIST FLEX;2fyc;3WRIST FLEX;3qg;4WRIST FLEX;",
    "2rs;2zaycMOVEMENT;3WRIST FLEX;3qg;4WRIST FLEX;2BENDo;3vh;3up;2rro;3vh;3up;3ROTATION;",
    "2CHECKo;3vh;3up;2BOXo;3vh;3up;2ZIGZAGo;3vh;3up;2PEAKSo;3vh;3up;",
    "1TRAVEL-WALLPLANE ROTATION-WALLPLANExt;3f;3qg;2ROTATION-FLOORPLANExt;3f;3qg;2SHAKING;",
    "2ARM SPIRALxt;4f;4za;1MOVEMENT-DIAGONAL AWAYo;3vh;3up;3LARGEST;2TOWARDSo;3vh;3up;3LARGEST;",
    "2qtAWAYo;4vh;4up;4LARGEST;3TOWARDSo;4vh;4up;4LARGEST;1vlxtyco;4vh;4up;4LARGEST;",
    "3WRIST FLEX;2fyc;3WRIST FLEX;3qg;4WRIST FLEX;2rs;2zaycMOVEMENT;3WRIST FLEX;3qgMOVEMENT;",
    "4WRIST FLEX;2BEND;2rro;3vh;3up;2CHECK;2BOXo;3vh;3up;2ZIGZAGo;3vh;3up;2PEAKSo;3vh;3up;",
    "1TRAVEL-FLOORPLANE ROTATION-FLOORPLANExt;3f;3qg;2ROTATION-WALLPLANExt;3f;3qg;2SHAKING;",
    "1vmCURVEwxo;4vh;4up;4LARGEST;3HALF-CIRCLEo;4vh;4up;4LARGEST;3THREE-QUARTERrgo;5vh;2HUMPo;",
    "3vh;3up;2LOOPo;3vh;3up;3of;2WAVE CURVEfo;5vh;5up;4zao;5vh;5up;2CURVE THENyc;2CURVEDrso;",
    "4vh;1ROTATION-WALLPLANExt;2f;2qf;1vmSHAKING;2CURVEtxFRONT WALL;2HUMPtxFRONT WALL;",
    "2LOOPtxFRONT WALL;2WAVEtxFRONT WALL;1ROTATION-WALLPLANExttxFRONT WALL;2ftxFRONT WALL;",
    "2qgtxFRONT WALL;1vmCURVEtxCHEST;2HUMPtxCHEST;2LOOPtxCHEST;2WAVEtxCHEST;",
    "1ROTATION-WALLPLANExttxCHEST;2ftxCHEST;2qgtxCHEST;1vmWAVEsePATHo;5vh;5up;",
    "1vlCURVEtxCEILINGo;5up;2HUMPtxCEILINGof;5upf;5oza;5upza;2LOOPtxCEILINGoxt;5upxt;5of;5upf;",
    "2WAVEtxCEILINGo;5up;1ROTATION-FLOORPLANExttxCEILING;2ftxCEILING;2qgtxCEILING;",
    "1vlCURVEtxFLOORo;5up;2HUMPtxFLOORof;5upf;5zaoza;6upza;2LOOPtxFLOORoxt;5upxt;5of;5upf;",
    "2WAVEtxFLOORo;5up;1ROTATION-FLOORPLANExttxFLOOR;2ftxFLOOR;2qgtxFLOOR;1vlCURVEo;3vh;3up;",
    "3LARGEST;3COMBINED;2HUMPo;2LOOPo;2WAVE SNAKE;3o;3up;1ROTATION-FLOORPLANExt;2f;2qg;",
    "1vlSHAKING PARALLEL;1vmARMrgoxt;4vhxt;4of;4vhf;1vlARMrgtxWALLoxt;6vhxt;6upxt;6of;6vhf;",
    "6upf;1vmWRISTrgFRONTxt;5f;1vlWRISTrgtxWALLxt;6f;1vmFINGER CIRCLESxt;4f;",
    "1vlFINGER CIRCLEStxWALLxt;6f;1DYNAMICqoo;3up;2FAST;2SLOW;2TENSE;2RELAXED;2SIMULTANEOUS;",
    "3qg;2EVERY OTHER TIME;2GRADUAL;1HEAD;2RIM;2vmyc;3TILT;2vlyc;2vmCURVE;2vlCURVE;2MOVEMENTrg;",
    "1szDIRECTION POSITION NOSE FORWARD TILTING;5zgORsn;8TILTING;1EYEBROWSyczg;3vq;3sn;",
    "1DREAMY EYEBROWSvqsn;3snvq;3zgvq;3vqzg;1FOREHEADvq;2CONTACT;2WRINKLED;1EYESwe;2SQUEEZED;",
    "2rk;1EYE BLINKxt;3MULTIPLE;1EYEStnwe;2WIDEwe;2tnrk;2WIDENING MOVEMENT;1EYE WINK;",
    "1EYELASHESzg;2sn;2FLUTTERING;1EYEGAZE-WALLPLANEyc;3f;3qg;1EYEGAZE-FLOORPLANEyc;3f;3qg;",
    "1EYEGAZE-WALLPLANE CURVED;1EYEGAZE-FLOORPLANE CURVED;1EYEGAZE-WALLPLANE CIRCLING;",
    "1CHEEKS PUFFED;2vq;2SUCKED;1TENSE CHEEKStw;3vj;3uz;1EARS;1NOSEvq;2CONTACT;2WRINKLES;",
    "2WIGGLES;1AIR BLOWING OUT;2SUCKING IN;2BLOWoROTATIONS;2SUCKoROTATIONS;1BREATH INHALE;",
    "2EXHALE;1MOUTHrkvq;3FORWARD;3CONTACT;2SMILE;3WRINKLED;3we;2FROWN;3WRINKLED;3we;2werg;",
    "3FORWARD;3WRINKLED;3OVAL;4WRINKLED;4YAWN;3RECTANGLE;4WRINKLED;4YAWN;2KISS;3FORWARD;",
    "3WRINKLED;2TENSE;3FORWARD;3SUCKED;1LIPS PRESSED TOGETHER;1LIPvawizi;2ziwiva;",
    "1MOUTH CORNERS;2WRINKLESxt;3f;1TONGUE STICKING OUT FAR;2LICKING LIPS;2TIPqtLIPS;",
    "3TOUCHING INSIDE MOUTH;2INSIDE MOUTH RELAXED;2MOVES AGAINST CHEEK;2rdSTICKING OUT;",
    "3INSIDE MOUTH;1TEETH;2MOVEMENT;2ON TONGUE;4MOVEMENT;3LIPS;4MOVEMENT;2BITE LIPS;1vmJAW;",
    "1vlJAW;1NECK;1HAIR;1EXCITEMENT;1SHOULDER HIP SPINE;3POSITIONS;",
    "1WALLPLANE SHOULDER HIP MOVE;1FLOORPLANE SHOULDER HIP MOVE;1SHOULDER TILTING FROM WAIST;",
    "1TORSO-WALLPLANEycSTRETCH;2CURVED BEND;1TORSO-FLOORPLANE TWISTING;",
    "1ziBODY TILTING FROM HIP JOINTS;1LIMB COMBINATION;2LENGTH-1;2LENGTH-2;2LENGTH-3;2LENGTH-4;",
    "2LENGTH-5;2LENGTH-6;2LENGTH-7;1FINGER;1LOCATION-WALLPLANE SPACE;",
    "1LOCATION-FLOORPLANE SPACE;1LOCATION HEIGHT;2WIDTH;2DEPTH;2HEAD NECK;2TORSO;2LIMBS DIGITS;",
    "1rn;1tfyb;1SEMICOLON;1rl;1wn"]⟩,
  ⟨0x1DA9B, ["SIGNWRITING FILL MODIFIER-2;2MODIFIER-3;2MODIFIER-4;2MODIFIER-5;2MODIFIER-6;;",
    "1ROTATION MODIFIER-2;2MODIFIER-3;2MODIFIER-4;2MODIFIER-5;2MODIFIER-6;2MODIFIER-7;",
    "2MODIFIER-8;2MODIFIER-9;2MODIFIER-10;2MODIFIER-11;2MODIFIER-12;2MODIFIER-13;2MODIFIER-14;",
    "2MODIFIER-15;2MODIFIER-16"]⟩,
  ⟨0x1DF00, ["uqokFENGsipTRILL;3xfxlG;1koezcG;1okxfK;1koeLpBELT;1okLEZHpxdty;3zcYpBELT;3xfENG;",
    "3zcRpuyLEGbxdty;3Tptybxdty;1kxdCLICKpxdty;1okESHpfqr;7bCURL;3zcTpCURL;1kuhtgybpCURL;",
    "2STRETCHED CpCURL;2oezcK;1okLpFISHHOOK;3DEZHsipwmty;3LpBELTbwmty;3ENGpwmty;3zcRpwmty;",
    "3RpFISHHOOKbwmty;3TESHsipwmty;3EZHpwmty;3DEZHsipxdty;3Ipydbxdty;3Opxdty;3TESHsipxdty;",
    "3Cpxdty;3SpCURL"]⟩,
  ⟨0x1E000, ["rmGLAGOLITICkAZU;3BUKY;3VEDE;3GLAGOLI;3DOBRO;3YESTU;3ZHIVETE;;3ZEMLJA;3IZHE;",
    "3udIZHE;3I;3DJERVI;3KAKO;3LJUDIJE;3MYSLITE;3NASHI;3ONU;3POKOJI;3RITSI;3SLOVO;3TVRIDO;3UKU;",
    "3FRITU;3HERU;;;3SHTA;3TSI;3CHRIVI;3xq;3YERU;3YERI;3YATI;;3YU;3oYUS;;3YO;3IOTATEDoYUS;",
    "3BIG YUS;3IOTATED BIG YUS;3FITA"]⟩,
  ⟨0x1E100, ["NYIAKENG PUACHUE HMONGkvb;4TSA;4NTA;4yj;4tl;4vo;4XA;4NKA;4CA;4uo;4xj;4ZA;4NCA;",
    "4NTSA;4uk;4DA;4vy;4NRA;4VA;4NTXA;4TXA;4FA;4xb;4QA;4zv;4NQA;4wl;4XYA;4NPA;4DLA;4NPLA;4tm;",
    "4MLA;4PLA;4GA;4RRA;4A;4AA;4I;4U;4O;4OO;4E;4EE;4W"]⟩,
  ⟨0x1E130, ["NYIAKENG PUACHUE HMONG TONE-B;3TONE-M;3TONE-J;3TONE-V;3TONE-S;3TONE-G;3TONE-D;",
    "3nFOR PERSON;5THING;5LOCATION;5ANIMAL;5INVERTEBRATE;4XW XW;3yhLENGTHENER;;;3shzz;4wd;4ze;",
    "4yq;4td;4tc;4xu;4xo;4sr;4vs"]⟩,
  ⟨0x1E14E, ["NYIAKENG PUACHUE HMONG LOGOGRAM NYAJ;3rhCA"]⟩,
  ⟨0x1E290, ["TOTOkwl;2BA;2yj;2DA;2uk;2GA;2vb;2vo;2vr;2xj;2re;2zv;2WA;2JA;2tl;2xb;2uo;2I;",
    "2BREATHY I;2IU;2BREATHY IU;2U;2E;2BREATHY E;2EO;2BREATHY EO;2O;2AE;2BREATHY AE;2A;",
    "1nRISINGyv"]⟩,
  ⟨0x1E2C0, ["WANCHOkAA;2A;2BA;2CA;2DA;2GA;2zv;2wp;2uo;2vo;2wl;2yj;2yn;2FA;2xj;2xq;2JA;2ZA;2WA;",
    "2VA;2uk;2O;2AU;2xb;2vb;2ul;2tl;2E;2I;2vr;2U;2LLHA;2TSA;2TRA;2ONG;2AANG;2ANG;2ING;2ON;2EN;",
    "2AAN;2vy;2UEN;2YIH;1yvTUP;2TUPNI;2KOI;2KOINI;1shzz;2wd;2ze;2yq;2td;2tc;2xu;2xo;2sr;2vs"]⟩,
  ⟨0x1E2FF, ["WANCHO NGUNn"]⟩,
  ⟨0x1E7E0, ["ETHIOPICyhHHYA;2HHYU;2HHYI;2HHYAA;2HHYEE;2HHYE;2HHYO;;2GURAGE HHWA;2HHWI;2HHWEE;",
    "2HHWE;;2GURAGE MWI;3MWEE;;3QWI;3QWEE;3QWE;3BWI;3BWEE;3KWI;3KWEE;3KWE;3GWI;3GWEE;3GWE;3FWI;",
    "3FWEE;3PWI;3PWEE;;MENDE KIKAKUIyhM001 KI;3M002uk;3M003 KU;3M065 KEE;3M095 KE;3M076 KOO;",
    "3M048 KO;3M179 KUA;3M004 WI;3M005 WA;3M006 WU;3M126 WEE;3M118 WE;3M114 WOO;3M045 WO;",
    "3M194 WUI;3M143 WEI;3M061 WVI;3M049 WVA;3M139 WVE;3M007 MIN;3M008 MAN;3M009 MUN;3M059 MEN;",
    "3M094 MON;3M154 MUAN;3M189 MUEN;3M010 BI;3M011 BA;3M012 BU;3M150 BEE;3M097 BE;3M103 BOO;",
    "3M138 BO;3M013 I;3M014 A;3M015 U;3M163 EE;3M100 E;3M165 OO;3M147 O;3M137 EI;3M131 IN;",
    "3M135 IN;3M195 AN;3M178 EN;3M019 SI;3M020xj;3M021 SU;3M162 SEE;3M116 SE;3M136 SOO;",
    "3M079 SO;3M196 SIA;3M025 LI;3M026uo;3M027 LU;3M084 LEE;3M073 LE;3M054 LOO;3M153 LO;",
    "3M110uyLE;3M016 DI;3M017 DA;3M018 DU;3M089 DEE;3M180 DOO;3M181 DO;3M022 TI;3M023yj;",
    "3M024 TU;3M091 TEE;3M055 TE;3M104 TOO;3M069yu;3M028 JI;3M029 JA;3M030 JU;3M157 JEE;",
    "3M113 JE;3M160 JOO;3M063 JO;3M175uyJO;3M031 YI;3M032zv;3M033 YU;3M109 YEE;3M080 YE;",
    "3M141 YOO;3M121 YO;3M034 FI;3M035 FA;3M036 FU;3M078 FEE;3M075 FE;3M133 FOO;3M088 FO;",
    "3M197 FUA;3M101 FAN;3M037 NIN;3M038 NAN;3M039 NUN;3M117 NEN;3M169 NON;3M176 HI;3M041tl;",
    "3M186 HU;3M040 HEE;3M096 HE;3M042 HOO;3M140 HO;3M083 HEEI;3M128 HOOU;3M053 HIN;3M130 HAN;",
    "3M087 HUN;3M052 HEN;3M193 HON;3M046 HUAN;3M090 NGGI;3M043 NGGA;3M082 NGGU;3M115 NGGEE;",
    "3M146 NGGE;3M156 NGGOO;3M120 NGGO;3M159 NGGAA;3M127 NGGUA;3M086uyNGGE;3M106uyNGGOO;",
    "3M183uyNGGO;3M155 GI;3M111 GA;3M168 GU;3M190 GEE;3M166 GUEI;3M167 GUAN;3M184 NGEN;",
    "3M057 NGON;3M177 NGUAN;3M068 PI;3M099wl;3M050 PU;3M081 PEE;3M051 PE;3M102 POO;3M066 PO;",
    "3M145 MBI;3M062 MBA;3M122 MBU;3M047 MBEE;3M188 MBEE;3M072 MBE;3M172 MBOO;3M174 MBO;",
    "3M187 MBUU;3M161uyMBE;3M105uyMBOO;3M142uyMBO;3M132 KPI;3M092 KPA;3M074 KPU;3M044 KPEE;",
    "3M108 KPE;3M112 KPOO;3M158 KPO;3M124 GBI;3M056 GBA;3M148 GBU;3M093 GBEE;3M107 GBE;",
    "3M071 GBOO;3M070 GBO;3M171xb;3M123 NDI;3M129 NDA;3M125 NDU;3M191 NDEE;3M119 NDE;",
    "3M067 NDOO;3M064 NDO;3M152 NJA;3M192 NJU;3M149 NJEE;3M134 NJOO;3M182 VI;3M185 VA;3M151 VU;",
    "3M173 VEE;3M085 VE;3M144 VOO;3M077 VO;3M164 NYIN;3M058 NYAN;3M170 NYUN;3M098 NYEN;",
    "3M060 NYON;;;2shwd;3ze;3yq;3td;3tc;3xu;3xo;3sr;3vs;2rmvxTEENS;4TENS;4HUNDREDS;4THOUSANDS;",
    "4ylTHOUSANDS;4uaTHOUSANDS;4MILLIONS"]⟩,
  ⟨0x1E900, ["ADLAMekALIF;3DAALI;3LAAM;3MIIM;3BA;3SINNYIIYHE;3PE;3BHE;3xb;3E;3FA;3I;3O;3DHA;",
    "3YHE;3WAW;3NUN;3KAF;3zv;3U;3JIIM;3CHI;3tl;3QAAF;3GA;3vy;3TU;3NHA;3VA;3ul;3GBE;3ZAL;3KPO;",
    "3xq;1okALIF;3DAALI;3LAAM;3MIIM;3BA;3SINNYIIYHE;3PE;3BHE;3xb;3E;3FA;3I;3O;3DHA;3YHE;3WAW;",
    "3NUN;3KAF;3zv;3U;3JIIM;3CHI;3tl;3QAAF;3GA;3vy;3TU;3NHA;3VA;3ul;3GBE;3ZAL;3KPO;3xq;",
    "1ALIF LENGTHENER;1zrLENGTHENER;1GEMINATIONve;1to;1rpvk;1GEMINATErpvk;1NUKTA;",
    "1NASALIZATIONve"]⟩,
  ⟨0x1E950, ["ADLAMshzz;2wd;2ze;2yq;2td;2tc;2xu;2xo;2sr;2vs"]⟩,
  ⟨0x1E95E, ["ADLAMudsyve;2wzve"]⟩,
  ⟨0x1EC71, ["INDIC SIYAQvxwd;3ze;3yq;3td;3tc;3xu;3xo;3sr;3vs;3yl;3zd;3yo;3FORTY;3ta;3SIXTY;",
    "3xp;3EIGHTY;3vt;3wdua;3zeua;3yqua;3tdua;3tcua;3xuua;3xoua;3srua;3vsua;3wdyp;3zeyp;3yqyp;",
    "3tdyp;3tcyp;3xuyp;3xoyp;3sryp;3vsyp;3ylyp;3zdyp;3yoyp;3FORTYyp;3tayp;3SIXTYyp;3xpyp;",
    "3EIGHTYyp;3vtyp;3LAKH;3LAKHAN;2LAKHve;2vxKAROR;3KARORAN;3PREFIXEDwd;4ze;4yq;4td;4tc;4xu;",
    "4xo;4sr;4vs;2PLACEHOLDER;2tewdwx;4tn;3yqwy;2RUPEEve;2vxqfwd;4ze;4ylyp;2qfLAKHve"]⟩,
  ⟨0x1ED01, ["OTTOMAN SIYAQvxwd;3ze;3yq;3td;3tc;3xu;3xo;3sr;3vs;3yl;3zd;3yo;3FORTY;3ta;3SIXTY;",
    "3xp;3EIGHTY;3vt;3wdua;3zeua;3yqua;3tdua;3tcua;3xuua;3xoua;3srua;3vsua;3wdyp;3zeyp;3yqyp;",
    "3tdyp;3tcyp;3xuyp;3xoyp;3sryp;3vsyp;3ylyp;3zdyp;3yoyp;3FORTYyp;3tayp;3SIXTYyp;3xpyp;",
    "3EIGHTYyp;3vtyp;2MARRATAN;2qfvxze;4yq;4td;4tc;4xu;4xo;4sr;4vs;4yl;4tdua;4xuua;4zeyp;4ylyp;",
    "2tewdtn;4SIXTH"]⟩,
  ⟨0x1EE00, ["qkvfqd;2BEH;2uj;2DAL;;2WAW;2ZAIN;2tm;2TAH;2zw;2KAF;2LAM;2vi;2vu;2SEEN;2AIN;2FEH;",
    "2SAD;2QAF;2REH;2SHEEN;2TEH;2THEH;2um;2THAL;2DAD;2ZAH;2GHAIN;2DOTLESS BEH;3vu;3FEH;3QAF;;",
    "2udBEH;3uj;;3HEH;;;3tm;;3zw;3KAF;3LAM;3vi;3vu;3SEEN;3AIN;3FEH;3SAD;3QAF;;3SHEEN;3TEH;",
    "3THEH;3um;;3DAD;;3GHAIN"]⟩,
  ⟨0x1EE42, ["qkvfTAILEDuj"]⟩,
  ⟨0x1EE47, ["qkvfTAILEDtm;;3zw;;3LAM;;3vu;3SEEN;3AIN;;3SAD;3QAF;;3SHEEN;;;3um;;3DAD;;3GHAIN;;",
    "3DOTLESSvu;;4QAF;;2STRETCHED BEH;3uj;;3HEH;;;3tm;3TAH;3zw;3KAF;;3vi;3vu;3SEEN;3AIN;3FEH;",
    "3SAD;3QAF;;3SHEEN;3TEH;3THEH;3um;;3DAD;3ZAH;3GHAIN;3DOTLESS BEH;;4FEH;;2LOOPEDqd;3BEH;3uj;",
    "3DAL;3HEH;3WAW;3ZAIN;3tm;3TAH;3zw;;3LAM;3vi;3vu;3SEEN;3AIN;3FEH;3SAD;3QAF;3REH;3SHEEN;",
    "3TEH;3THEH;3um;3THAL;3DAD;3ZAH;3GHAIN"]⟩,
  ⟨0x1EEA1, ["qkvfsmBEH;3uj;3DAL;;3WAW;3ZAIN;3tm;3TAH;3zw;;3LAM;3vi;3vu;3SEEN;3AIN;3FEH;3SAD;",
    "3QAF;3REH;3SHEEN;3TEH;3THEH;3um;3THAL;3DAD;3ZAH;3GHAIN"]⟩,
  ⟨0x1EEF0, ["qkvfwfviptmpTATWEEL;3tmpDAL"]⟩,
  ⟨0x1F000, ["MAHJONG TILEsqWIND;2xxWIND;2zsWIND;2vvWIND;2RED DRAGON;2GREEN DRAGON;2zuDRAGON;",
    "2wdvzCHARACTERS;2zevzCHARACTERS;2yqvzCHARACTERS;2tdvzCHARACTERS;2tcvzCHARACTERS;",
    "2xuvzCHARACTERS;2xovzCHARACTERS;2srvzCHARACTERS;2vsvzCHARACTERS;2wdvzBAMBOOS;2zevzBAMBOOS;",
    "2yqvzBAMBOOS;2tdvzBAMBOOS;2tcvzBAMBOOS;2xuvzBAMBOOS;2xovzBAMBOOS;2srvzBAMBOOS;",
    "2vsvzBAMBOOS;2wdvzCIRCLES;2zevzCIRCLES;2yqvzCIRCLES;2tdvzCIRCLES;2tcvzCIRCLES;",
    "2xuvzCIRCLES;2xovzCIRCLES;2srvzCIRCLES;2vsvzCIRCLES;2PLUM;2ORCHID;2BAMBOO;2CHRYSANTHEMUM;",
    "2SPRING;2SUMMER;2AUTUMN;2WINTER;2JOKER;2BACK"]⟩,
  ⟨0x1F030, ["DOMINO TILEtzBACK;2HORIZONTAL-00-00;2HORIZONTAL-00-01;2HORIZONTAL-00-02;",
    "2HORIZONTAL-00-03;2HORIZONTAL-00-04;2HORIZONTAL-00-05;2HORIZONTAL-00-06;2HORIZONTAL-01-00;",
    "2HORIZONTAL-01-01;2HORIZONTAL-01-02;2HORIZONTAL-01-03;2HORIZONTAL-01-04;2HORIZONTAL-01-05;",
    "2HORIZONTAL-01-06;2HORIZONTAL-02-00;2HORIZONTAL-02-01;2HORIZONTAL-02-02;2HORIZONTAL-02-03;",
    "2HORIZONTAL-02-04;2HORIZONTAL-02-05;2HORIZONTAL-02-06;2HORIZONTAL-03-00;2HORIZONTAL-03-01;",
    "2HORIZONTAL-03-02;2HORIZONTAL-03-03;2HORIZONTAL-03-04;2HORIZONTAL-03-05;2HORIZONTAL-03-06;",
    "2HORIZONTAL-04-00;2HORIZONTAL-04-01;2HORIZONTAL-04-02;2HORIZONTAL-04-03;2HORIZONTAL-04-04;",
    "2HORIZONTAL-04-05;2HORIZONTAL-04-06;2HORIZONTAL-05-00;2HORIZONTAL-05-01;2HORIZONTAL-05-02;",
    "2HORIZONTAL-05-03;2HORIZONTAL-05-04;2HORIZONTAL-05-05;2HORIZONTAL-05-06;2HORIZONTAL-06-00;",
    "2HORIZONTAL-06-01;2HORIZONTAL-06-02;2HORIZONTAL-06-03;2HORIZONTAL-06-04;2HORIZONTAL-06-05;",
    "2HORIZONTAL-06-06;2znBACK;2VERTICAL-00-00;2VERTICAL-00-01;2VERTICAL-00-02;2VERTICAL-00-03;",
    "2VERTICAL-00-04;2VERTICAL-00-05;2VERTICAL-00-06;2VERTICAL-01-00;2VERTICAL-01-01;",
    "2VERTICAL-01-02;2VERTICAL-01-03;2VERTICAL-01-04;2VERTICAL-01-05;2VERTICAL-01-06;",
    "2VERTICAL-02-00;2VERTICAL-02-01;2VERTICAL-02-02;2VERTICAL-02-03;2VERTICAL-02-04;",
    "2VERTICAL-02-05;2VERTICAL-02-06;2VERTICAL-03-00;2VERTICAL-03-01;2VERTICAL-03-02;",
    "2VERTICAL-03-03;2VERTICAL-03-04;2VERTICAL-03-05;2VERTICAL-03-06;2VERTICAL-04-00;",
    "2VERTICAL-04-01;2VERTICAL-04-02;2VERTICAL-04-03;2VERTICAL-04-04;2VERTICAL-04-05;",
    "2VERTICAL-04-06;2VERTICAL-05-00;2VERTICAL-05-01;2VERTICAL-05-02;2VERTICAL-05-03;",
    "2VERTICAL-05-04;2VERTICAL-05-05;2VERTICAL-05-06;2VERTICAL-06-00;2VERTICAL-06-01;",
    "2VERTICAL-06-02;2VERTICAL-06-03;2VERTICAL-06-04;2VERTICAL-06-05;2VERTICAL-06-06"]⟩,
  ⟨0x1F0A0, ["PLAYING CARD BACK;2ACEvzSPADES;2zevzSPADES;2yqvzSPADES;2tdvzSPADES;2tcvzSPADES;",
    "2xuvzSPADES;2xovzSPADES;2srvzSPADES;2vsvzSPADES;2ylvzSPADES;2JACKvzSPADES;2unvzSPADES;",
    "2QUEENvzSPADES;2KINGvzSPADES;;;2ACEvzHEARTS;2zevzHEARTS;2yqvzHEARTS;2tdvzHEARTS;",
    "2tcvzHEARTS;2xuvzHEARTS;2xovzHEARTS;2srvzHEARTS;2vsvzHEARTS;2ylvzHEARTS;2JACKvzHEARTS;",
    "2unvzHEARTS;2QUEENvzHEARTS;2KINGvzHEARTS;2RED JOKER;;2ACEvzDIAMONDS;2zevzDIAMONDS;",
    "2yqvzDIAMONDS;2tdvzDIAMONDS;2tcvzDIAMONDS;2xuvzDIAMONDS;2xovzDIAMONDS;2srvzDIAMONDS;",
    "2vsvzDIAMONDS;2ylvzDIAMONDS;2JACKvzDIAMONDS;2unvzDIAMONDS;2QUEENvzDIAMONDS;",
    "2KINGvzDIAMONDS;2quJOKER;;2ACEvzCLUBS;2zevzCLUBS;2yqvzCLUBS;2tdvzCLUBS;2tcvzCLUBS;",
    "2xuvzCLUBS;2xovzCLUBS;2srvzCLUBS;2vsvzCLUBS;2ylvzCLUBS;2JACKvzCLUBS;2unvzCLUBS;",
    "2QUEENvzCLUBS;2KINGvzCLUBS;2zuJOKER;2FOOL;2TRUMP-1;2TRUMP-2;2TRUMP-3;2TRUMP-4;2TRUMP-5;",
    "2TRUMP-6;2TRUMP-7;2TRUMP-8;2TRUMP-9;2TRUMP-10;2TRUMP-11;2TRUMP-12;2TRUMP-13;2TRUMP-14;",
    "2TRUMP-15;2TRUMP-16;2TRUMP-17;2TRUMP-18;2TRUMP-19;2TRUMP-20;2TRUMP-21"]⟩,
  ⟨0x1F100, ["shzztfyb;2rn;1wdrn;1zern;1yqrn;1tdrn;1tcrn;1xurn;1xorn;1srrn;1vsrn;",
    "DINGBATrhxkshzz;1vprhxkshzz;rhzzpSLASH;1qic;1DOLLARnpOVERLAID BACKSLASH;",
    "PARENTHESIZEDuqekA;4B;4C;4D;4E;4F;4G;4H;4I;4J;4K;4L;4M;4N;4O;4P;4Q;4R;4S;4T;4U;4V;4W;4X;",
    "4Y;4Z;ywSHELL BRACKETEDuqekS;rhITALICuqekC;5R;1CD;1WZ;COPYLEFTyi;xzuqekA;4B;4C;4D;4E;4F;",
    "4G;4H;4I;4J;4K;4L;4M;4N;4O;4P;4Q;4R;4S;4T;4U;4V;4W;4X;4Y;4Z;1HV;1MV;1SD;1SS;1PPV;1WC;",
    "vprhuqekA;5B;5C;5D;5E;5F;5G;5H;5I;5J;5K;5L;5M;5N;5O;5P;5Q;5R;5S;5T;5U;5V;5W;5X;5Y;5Z;",
    "xcMCn;1MDn;1MRn;rhCC;1CpOVERLAID BACKSLASH;1HUMAN FIGURE;vpxzuqekA;5B;5C;5D;5E;5F;5G;5H;",
    "5I;5J;5K;5L;5M;5N;5O;5P;5Q;5R;5S;5T;5U;5V;5W;5X;5Y;5Z;CROSSEDvpxzuqekP;vpxzIC;2wl;2xj;2AB;",
    "2WC;xyDJ;xzCL;1COOL;1FREE;1ID;1NEW;1NG;1OK;1SOS;1zgpsyve;1VS;1yqD;1SECOND SCREEN;1zeK;",
    "1tdK;1srK;1tcPOINTwd;1xoPOINTwd;1TWENTY-TWO POINTze;1SIXTY P;1wduazdP;1uqokD;1HC;1HDR;",
    "1HI-RES;1LOSSLESS;1SHV;1UHD;1VOD;MASK WORKyi"]⟩,
  ⟨0x1F1E6, ["REGIONAL INDICATORyikA;4B;4C;4D;4E;4F;4G;4H;4I;4J;4K;4L;4M;4N;4O;4P;4Q;4R;4S;4T;",
    "4U;4V;4W;4X;4Y;4Z;xyHIRAGANA HOKA;xzKATAKANA KOKO;2xj"]⟩,
  ⟨0x1F210, ["xzCJK UNIFIED IDEOGRAPH-624B;3IDEOGRAPH-5B57;3IDEOGRAPH-53CC;1KATAKANA DE;",
    "1CJK UNIFIED IDEOGRAPH-4E8C;3IDEOGRAPH-591A;3IDEOGRAPH-89E3;3IDEOGRAPH-5929;",
    "3IDEOGRAPH-4EA4;3IDEOGRAPH-6620;3IDEOGRAPH-7121;3IDEOGRAPH-6599;3IDEOGRAPH-524D;",
    "3IDEOGRAPH-5F8C;3IDEOGRAPH-518D;3IDEOGRAPH-65B0;3IDEOGRAPH-521D;3IDEOGRAPH-7D42;",
    "3IDEOGRAPH-751F;3IDEOGRAPH-8CA9;3IDEOGRAPH-58F0;3IDEOGRAPH-5439;3IDEOGRAPH-6F14;",
    "3IDEOGRAPH-6295;3IDEOGRAPH-6355;3IDEOGRAPH-4E00;3IDEOGRAPH-4E09;3IDEOGRAPH-904A;",
    "3IDEOGRAPH-5DE6;3IDEOGRAPH-4E2D;3IDEOGRAPH-53F3;3IDEOGRAPH-6307;3IDEOGRAPH-8D70;",
    "3IDEOGRAPH-6253;3IDEOGRAPH-7981;3IDEOGRAPH-7A7A;3IDEOGRAPH-5408;3IDEOGRAPH-6E80;",
    "3IDEOGRAPH-6709;3IDEOGRAPH-6708;3IDEOGRAPH-7533;3IDEOGRAPH-5272;3IDEOGRAPH-55B6;",
    "3IDEOGRAPH-914D"]⟩,
  ⟨0x1F240, ["ywSHELL BRACKETED CJK UNIFIED IDEOGRAPH-672C;5IDEOGRAPH-4E09;5IDEOGRAPH-4E8C;",
    "5IDEOGRAPH-5B89;5IDEOGRAPH-70B9;5IDEOGRAPH-6253;5IDEOGRAPH-76D7;5IDEOGRAPH-52DD;",
    "5IDEOGRAPH-6557"]⟩,
  ⟨0x1F250, ["rhIDEOGRAPH ADVANTAGE;2ACCEPT"]⟩,
  ⟨0x1F260, ["ROUNDEDyiFOR FU;3LU;3SHOU;3XI;3SHUANGXI;3CAI"]⟩,
  ⟨0x1F300, ["CYCLONE;FOGGY;rkUMBRELLA;NIGHTpSTARS;SUNRISEwiMOUNTAINS;SUNRISE;",
    "CITYSCAPE AT DUSK;SUNSETwiBUILDINGS;RAINBOW;BRIDGE AT NIGHT;WATER WAVE;VOLCANO;MILKY WAY;",
    "EARTH GLOBE EUROPE-AFRICA;2AMERICAS;2ASIA-AUSTRALIA;GLOBEpMERIDIANS;NEW MOONyi;",
    "WAXING CRESCENT MOONyi;FIRSTwxMOONyi;WAXING GIBBOUS MOONyi;tfMOONyi;WANING GIBBOUS MOONyi;",
    "LASTwxMOONyi;WANING CRESCENT MOONyi;CRESCENT MOON;NEW MOONpsz;FIRSTwxMOONpsz;",
    "LASTwxMOONpsz;tfMOONpsz;SUNpsz;GLOWINGya;SHOOTINGya;THERMOMETER;quDROPLET;zuSUN;2poCLOUD;",
    "2BEHIND CLOUD;4pRAIN;CLOUDpRAIN;2SNOW;2LIGHTNING;2TORNADO;FOG;WIND BLOWINGsz;HOT DOG;TACO;",
    "BURRITO;CHESTNUT;SEEDLING;EVERGREEN TREE;DECIDUOUS TREE;PALM TREE;CACTUS;HOT PEPPER;TULIP;",
    "CHERRY BLOSSOM;ROSE;HIBISCUS;SUNFLOWER;BLOSSOM;EARvzMAIZE;2RICE;HERB;tdLEAF CLOVER;",
    "MAPLE LEAF;FALLEN LEAF;LEAF FLUTTERING IN WIND;MUSHROOM;TOMATO;AUBERGINE;GRAPES;MELON;",
    "WATERMELON;TANGERINE;LEMON;BANANA;PINEAPPLE;RED APPLE;GREEN APPLE;PEAR;PEACH;CHERRIES;",
    "STRAWBERRY;HAMBURGER;SLICEvzPIZZA;MEAT ON BONE;POULTRY LEG;RICE CRACKER;1BALL;COOKED RICE;",
    "CURRYbRICE;STEAMING BOWL;SPAGHETTI;BREAD;FRENCH FRIES;ROASTED SWEET POTATO;DANGO;ODEN;",
    "SUSHI;FRIED SHRIMP;FISH CAKEpSWIRL DESIGN;SOFT ICE CREAM;SHAVED ICE;ICE CREAM;DOUGHNUT;",
    "COOKIE;CHOCOLATEqr;CANDY;LOLLIPOP;CUSTARD;HONEY POT;SHORTCAKE;BENTO BOX;POTvzFOOD;COOKING;",
    "FORKbKNIFE;TEACUP WITHOUT HANDLE;SAKE BOTTLEbCUP;WINE GLASS;COCKTAIL GLASS;TROPICAL DRINK;",
    "BEER MUG;CLINKING BEER MUGS;BABY BOTTLE;FORKbKNIFEpPLATE;BOTTLEpPOPPING CORK;POPCORN;",
    "RIBBON;WRAPPED PRESENT;BIRTHDAY CAKE;JACK-O-LANTERN;CHRISTMAS TREE;FATHER CHRISTMAS;",
    "FIREWORKS;FIREWORK SPARKLER;BALLOON;PARTY POPPER;CONFETTI BALL;TANABATA TREE;",
    "CROSSED FLAGS;PINE DECORATION;JAPANESE DOLLS;CARP STREAMER;WIND CHIME;",
    "MOON VIEWING CEREMONY;SCHOOL SATCHEL;GRADUATION CAP;tupTIP ON THEj;BOUQUETvzFLOWERS;",
    "MILITARY MEDAL;REMINDER RIBBON;MUSICAL KEYBOARDpJACKS;STUDIO MICROPHONE;LEVEL SLIDER;",
    "CONTROL KNOBS;BEAMED ASCENDING MUSICAL NOTES;1DESCENDING MUSICAL NOTES;FILM FRAMES;",
    "ADMISSION TICKETS;CAROUSEL HORSE;FERRIS WHEEL;ROLLER COASTER;FISHING POLEbFISH;MICROPHONE;",
    "MOVIE CAMERA;CINEMA;HEADPHONE;ARTIST PALETTE;TOP HAT;CIRCUS TENT;TICKET;CLAPPER BOARD;",
    "PERFORMING ARTS;VIDEO GAME;DIRECT HIT;SLOT MACHINE;BILLIARDS;GAME DIE;BOWLING;",
    "FLOWER PLAYING CARDS;MUSICAL NOTE;MULTIPLE MUSICAL NOTES;SAXOPHONE;GUITAR;",
    "MUSICAL KEYBOARD;TRUMPET;VIOLIN;MUSICAL SCORE;RUNNING SHIRTpSASH;TENNIS RACQUETbBALL;",
    "SKIbSKI BOOT;BASKETBALLbHOOP;CHEQUERED FLAG;SNOWBOARDER;RUNNER;SURFER;SPORTS MEDAL;TROPHY;",
    "HORSE RACING;AMERICAN FOOTBALL;RUGBY FOOTBALL;SWIMMER;WEIGHT LIFTER;GOLFER;",
    "RACING MOTORCYCLE;1CAR;CRICKET BATbBALL;VOLLEYBALL;FIELD HOCKEY STICKbBALL;",
    "ICE HOCKEY STICKbPUCK;TABLE TENNIS PADDLEbBALL;SNOW CAPPED MOUNTAIN;CAMPING;",
    "BEACHpUMBRELLA;BUILDING CONSTRUCTION;HOUSE BUILDINGS;CITYSCAPE;DERELICT HOUSE BUILDING;",
    "CLASSICAL BUILDING;DESERT;1ISLAND;NATIONAL PARK;STADIUM;HOUSE BUILDING;1pGARDEN;",
    "OFFICE BUILDING;JAPANESE POST OFFICE;EUROPEAN POST OFFICE;HOSPITAL;BANK;",
    "AUTOMATED TELLER MACHINE;HOTEL;LOVE HOTEL;CONVENIENCE STORE;SCHOOL;DEPARTMENT STORE;",
    "FACTORY;IZAKAYA LANTERN;JAPANESE CASTLE;EUROPEAN CASTLE;zuPENNANT;quPENNANT;WAVINGzuFLAG;",
    "1quFLAG;ROSETTE;quROSETTE;LABEL;BADMINTON RACQUETbSHUTTLECOCK;BOWbc;AMPHORA;",
    "EMOJIvkFITZPATRICK TYPE-1-2;3TYPE-3;3TYPE-4;3TYPE-5;3TYPE-6;RAT;MOUSE;OX;WATER BUFFALO;",
    "COW;TIGER;LEOPARD;RABBIT;CAT;DRAGON;CROCODILE;WHALE;SNAIL;SNAKE;HORSE;RAM;GOAT;SHEEP;",
    "MONKEY;ROOSTER;CHICKEN;DOG;PIG;BOAR;ELEPHANT;OCTOPUS;SPIRAL SHELL;BUG;ANT;HONEYBEE;",
    "LADY BEETLE;FISH;TROPICAL FISH;BLOWFISH;TURTLE;HATCHING CHICK;BABY CHICK;",
    "FRONT-FACING BABY CHICK;BIRD;PENGUIN;KOALA;POODLE;DROMEDARY CAMEL;BACTRIAN CAMEL;DOLPHIN;",
    "MOUSEsz;COWsz;TIGERsz;RABBITsz;CATsz;DRAGONsz;SPOUTING WHALE;HORSEsz;MONKEYsz;DOGsz;PIGsz;",
    "FROGsz;HAMSTERsz;WOLFsz;BEARsz;PANDAsz;PIG NOSE;PAW PRINTS;CHIPMUNK;EYES;EYE;EAR;NOSE;",
    "MOUTH;TONGUE;zuzgwsBACKHANDuc;1snwsBACKHANDuc;1jwsBACKHANDuc;1lwsBACKHANDuc;FISTED HANDn;",
    "WAVING HANDn;OK HANDn;THUMBSzgn;1snn;CLAPPING HANDSn;weHANDSn;CROWN;WOMANS HAT;EYEGLASSES;",
    "NECKTIE;T-SHIRT;JEANS;DRESS;KIMONO;BIKINI;WOMANS CLOTHES;PURSE;HANDBAG;POUCH;MANS SHOE;",
    "ATHLETIC SHOE;HIGH-HEELED SHOE;WOMANS SANDAL;1BOOTS;FOOTPRINTS;BUST IN SILHOUETTE;",
    "BUSTS IN SILHOUETTE;BOY;GIRL;MAN;WOMAN;FAMILY;MANbWOMAN HOLDING HANDS;zeMEN HOLDING HANDS;",
    "1WOMEN HOLDING HANDS;POLICE OFFICER;WOMANpBUNNY EARS;BRIDEpVEIL;PERSONpBLOND HAIR;",
    "MANpGUA PI MAO;2TURBAN;OLDER MAN;1WOMAN;BABY;CONSTRUCTION WORKER;PRINCESS;JAPANESE OGRE;",
    "1GOBLIN;GHOST;BABY ANGEL;EXTRATERRESTRIAL ALIEN;ALIEN MONSTER;IMP;SKULL;",
    "INFORMATION DESK PERSON;GUARDSMAN;DANCER;LIPSTICK;NAIL POLISH;szMASSAGE;HAIRCUT;",
    "BARBER POLE;SYRINGE;PILL;KISSve;LOVEk;xh;GEM STONE;KISS;BOUQUET;COUPLEptu;WEDDING;",
    "BEATINGtu;BROKENtu;zeHEARTS;SPARKLINGtu;GROWINGtu;tupc;BLUEtu;GREENtu;YELLOWtu;PURPLEtu;",
    "tupRIBBON;REVOLVING HEARTS;tuDECORATION;sgSHAPEpAsjINSIDE;ELECTRICuvBULB;ANGERyi;BOMB;",
    "SLEEPINGyi;COLLISIONyi;SPLASHING SWEATyi;DROPLET;ryyi;PILEvzPOO;FLEXED BICEPS;DIZZYyi;",
    "SPEECH BALLOON;THOUGHT BALLOON;zuFLOWER;uaPOINTSyi;MONEY BAG;CURRENCY EXCHANGE;tvDOLLARn;",
    "CREDIT CARD;BANKNOTEpYENn;2DOLLARn;2EUROn;2POUNDn;MONEYpWINGS;CHARTpzkTRENDbYENn;SEAT;",
    "PERSONAL COMPUTER;BRIEFCASE;MINIDISC;FLOPPY DISK;OPTICAL DISC;DVD;FILE FOLDER;",
    "weFILE FOLDER;PAGEpCURL;1FACINGzg;CALENDAR;TEAR-OFF CALENDAR;CARDuc;CHARTpzkTREND;",
    "2spTREND;qrCHART;CLIPBOARD;PUSHPIN;ROUND PUSHPIN;PAPERCLIP;ycRULER;yzRULER;BOOKMARK TABS;",
    "LEDGER;NOTEBOOK;1pDECORATIVE COVER;rkBOOK;weBOOK;GREEN BOOK;BLUE BOOK;ORANGE BOOK;BOOKS;",
    "NAME BADGE;SCROLL;MEMO;TELEPHONE RECEIVER;PAGER;FAX MACHINE;SATELLITE ANTENNA;",
    "PUBLIC ADDRESS LOUDSPEAKER;CHEERING MEGAPHONE;OUTBOX TRAY;INBOX TRAY;PACKAGE;E-MAILyi;",
    "INCOMING ENVELOPE;ENVELOPEpspca;rkMAILBOXpLOWERED FLAG;3xcFLAG;weMAILBOXpxcFLAG;",
    "3LOWERED FLAG;POSTBOX;POSTAL HORN;NEWSPAPER;MOBILE PHONE;2pmcATj;VIBRATION MODE;",
    "MOBILE PHONE OFF;NO MOBILE PHONES;ANTENNApBARS;CAMERA;1pFLASH;VIDEO CAMERA;TELEVISION;",
    "RADIO;VIDEOCASSETTE;FILM PROJECTOR;PORTABLE STEREO;PRAYER BEADS;TWISTEDmARROWS;",
    "rjmbuswergARROWS;7prhwdwj;1spbzkwergARROWS;qispbzkwergARROWS;uzBRIGHTNESSyi;",
    "twBRIGHTNESSyi;SPEAKERpCANCELLATIONyd;SPEAKER;1pwdSOUND WAVE;2yqSOUND WAVES;BATTERY;",
    "ELECTRIC PLUG;urMAGNIFYING GLASS;xgMAGNIFYING GLASS;LOCKpINK PEN;rkLOCKpKEY;KEY;LOCK;",
    "weLOCK;BELL;1pCANCELLATIONyd;BOOKMARK;LINKyi;RADIO BUTTON;BACKpusca;ENDpusca;ONpsyvepjlca;",
    "SOONpmca;TOPpzkca;NOwdUNDER EIGHTEENyi;KEYCAPyl;INPUTyiFORuqeLETTERS;4oLETTERS;3NUMBERS;",
    "3SYMBOLS;3uqLETTERS;FIRE;ELECTRIC TORCH;WRENCH;HAMMER;NUTbBOLT;HOCHO;PISTOL;MICROSCOPE;",
    "TELESCOPE;CRYSTAL BALL;xuwryapvjsj;JAPANESEyiFOR BEGINNER;TRIDENT EMBLEM;quxyBUTTON;",
    "zuxyBUTTON;upREDrg;1BLUErg;1ORANGEsg;1BLUEsg;oORANGEsg;1BLUEsg;zhREDyx;soREDyx;zhoREDyx;",
    "sooREDyx;valSHADOWEDzurg;zilSHADOWEDzurg;rhrsPOMMEE;rsPOMMEEpHALF-CIRCLEd;1POMMEE;",
    "NOTCHEDjSEMICIRCLEpyqsk;1lSEMICIRCLEpyqsk;yiFOR MARKS CHAPTER;zuuqrs;tvuqrs;CELTICrs;OMyi;",
    "DOVEvzPEACE;KAABA;MOSQUE;SYNAGOGUE;MENORAHpvsBRANCHES;BOWLvzHYGIEIA;CLOCKszwdOCLOCK;",
    "2zeOCLOCK;2yqOCLOCK;2tdOCLOCK;2tcOCLOCK;2xuOCLOCK;2xoOCLOCK;2srOCLOCK;2vsOCLOCK;2ylOCLOCK;",
    "2ELEVEN OCLOCK;2TWELVE OCLOCK;2ONE-THIRTY;2TWO-THIRTY;2THREE-THIRTY;2FOUR-THIRTY;",
    "2FIVE-THIRTY;2SIX-THIRTY;2SEVEN-THIRTY;2EIGHT-THIRTY;2NINE-THIRTY;2TEN-THIRTY;",
    "2ELEVEN-THIRTY;2TWELVE-THIRTY;lSPEAKER;2pwdSOUND WAVE;3yqSOUND WAVES;BULLHORN;",
    "1pSOUND WAVES;RINGING BELL;BOOK;CANDLE;MANTELPIECE CLOCK;quSKULLbCROSSBONES;NO PIRACY;",
    "HOLE;MAN IN BUSINESS SUIT LEVITATING;SLEUTH OR SPY;DARK SUNGLASSES;SPIDER;1WEB;JOYSTICK;",
    "MAN DANCING;jHAND TELEPHONE RECEIVER;TELEPHONE RECEIVERpPAGE;lHAND TELEPHONE RECEIVER;",
    "zuTOUCHTONE TELEPHONE;quTOUCHTONE TELEPHONE;TELEPHONE ON TOPvzMODEM;",
    "CLAMSHELL MOBILE PHONE;BACKvzENVELOPE;STAMPED ENVELOPE;ENVELOPEpLIGHTNING;FLYING ENVELOPE;",
    "PENwiSTAMPED ENVELOPE;LINKED PAPERCLIPS;quPUSHPIN;vajPENCIL;2BALLPOINT PEN;2FOUNTAIN PEN;",
    "2PAINTBRUSH;2CRAYON;jWRITING HAND;zcOK HANDn;xcHANDptbSPLAYED;xfxcHANDptbSPLAYED;",
    "1THUMBSzgn;2snn;1VICTORY HAND;1HANDpvjFINGER EXTENDED;xcHANDpPARTqtvjbxhtb;zusnwsjHANDuc;",
    "SIDEWAYSzujwsuc;2lwsuc;1qujwsuc;2lwsuc;qujwsBACKHANDuc;1lwsBACKHANDuc;SIDEWAYSzuzgwsuc;",
    "2snwsuc;1quzgwsuc;2snwsuc;quzgwsBACKHANDuc;1snwsBACKHANDuc;1tu;DESKTOP COMPUTER;",
    "KEYBOARDbMOUSE;yqNETWORKED COMPUTERS;PRINTER;POCKET CALCULATOR;quHARD SHELL FLOPPY DISK;",
    "zuHARD SHELL FLOPPY DISK;SOFT SHELL FLOPPY DISK;TAPE CARTRIDGE;WIRED KEYBOARD;",
    "wdBUTTON MOUSE;zeBUTTON MOUSE;yqBUTTON MOUSE;TRACKBALL;waPERSONAL COMPUTER;HARD DISK;",
    "SCREEN;PRINTER ICON;FAX ICON;OPTICAL DISC ICON;DOCUMENTpTEXT;3bPICTURE;2PICTURE;",
    "FRAMEpPICTURE;2TILES;2AN X;quFOLDER;FOLDER;weFOLDER;CARDucDIVIDERS;1FILE BOX;FILE CABINET;",
    "EMPTY NOTE;2PAGE;2PAD;NOTE;1PAGE;1PAD;EMPTY DOCUMENT;1PAGE;1PAGES;DOCUMENT;PAGE;PAGES;",
    "WASTEBASKET;SPIRAL NOTE PAD;1CALENDAR PAD;DESKTOP WINDOW;MINIMIZE;MAXIMIZE;OVERLAP;",
    "rjlbjSEMICIRCLE ARROWS;CANCELLATION X;INCREASE FONT SIZEyi;DECREASE FONT SIZEyi;",
    "COMPRESSION;waKEY;ROLLED-UP NEWSPAPER;PAGEprhTEXT;STOCK CHART;DAGGER KNIFE;LIPS;",
    "SPEAKING HEAD IN SILHOUETTE;yqRAYSa;2d;2j;2l;jSPEECH BUBBLE;lSPEECH BUBBLE;",
    "zeSPEECH BUBBLES;yqSPEECH BUBBLES;jTHOUGHT BUBBLE;lTHOUGHT BUBBLE;jANGER BUBBLE;",
    "lANGER BUBBLE;MOOD BUBBLE;LIGHTNING MOOD BUBBLE;1MOOD;BALLOT BOXpBALLOT;1xlX;1BOXpxlX;",
    "1BOLDxlX;1BOXpBOLDxlX;uvCHECKve;BALLOT BOXpBOLD CHECK;WORLD MAP;MOUNT FUJI;TOKYO TOWER;",
    "STATUEvzLIBERTY;SILHOUETTEvzJAPAN;MOYAI;GRINNINGsz;2pSMILING EYES;szpTEARSvzJOY;",
    "SMILINGszpweMOUTH;5bSMILING EYES;6COLD SWEAT;6TIGHTLY-CLOSED EYES;3HALO;3HORNS;WINKINGsz;",
    "SMILINGszpSMILING EYES;szSAVOURING DELICIOUS FOOD;RELIEVEDsz;SMILINGszpHEART-SHAPED EYES;",
    "3SUNGLASSES;SMIRKINGsz;vqsz;EXPRESSIONLESSsz;UNAMUSEDsz;szpCOLD SWEAT;PENSIVEsz;",
    "CONFUSEDsz;CONFOUNDEDsz;KISSINGsz;szTHROWING A KISS;KISSINGszpSMILING EYES;3rkEYES;",
    "szpSTUCK-OUT TONGUE;4bWINKING EYE;5TIGHTLY-CLOSED EYES;DISAPPOINTEDsz;WORRIEDsz;ANGRYsz;",
    "POUTINGsz;CRYINGsz;PERSEVERINGsz;szpLOOKvzTRIUMPH;DISAPPOINTED BUT RELIEVEDsz;",
    "FROWNINGszpweMOUTH;ANGUISHEDsz;FEARFULsz;WEARYsz;SLEEPYsz;TIREDsz;GRIMACINGsz;",
    "LOUDLY CRYINGsz;szpweMOUTH;HUSHEDsz;szpweMOUTHbCOLD SWEAT;1SCREAMING IN FEAR;ASTONISHEDsz;",
    "FLUSHEDsz;SLEEPINGsz;DIZZYsz;szWITHOUT MOUTH;1pMEDICAL MASK;GRINNING CATszpSMILING EYES;",
    "CATszpTEARSvzJOY;SMILING CATszpweMOUTH;4HEART-SHAPED EYES;CATszpWRY SMILE;",
    "KISSING CATszprkEYES;POUTING CATsz;CRYING CATsz;WEARY CATsz;SLIGHTLY FROWNINGsz;",
    "1SMILINGsz;UPSIDE-DOWNsz;szpROLLING EYES;2NO GOOD GESTURE;2OK GESTURE;",
    "PERSON BOWING DEEPLY;SEE-NO-EVIL MONKEY;HEAR-NO-EVIL MONKEY;SPEAK-NO-EVIL MONKEY;",
    "HAPPY PERSON RAISINGwdHAND;PERSON RAISING BOTH HANDS IN CELEBRATION;1FROWNING;1pPOUTINGsz;",
    "2FOLDED HANDS;vvzswsLEAF;xxzswsLEAF;vvsqwsLEAF;xxsqwsLEAF;zcvvzswsLEAF;1xxzswsLEAF;",
    "1vvsqwsLEAF;1xxsqwsLEAF;vvzswsVINE LEAF;xxzswsVINE LEAF;vvsqwsVINE LEAF;xxsqwsVINE LEAF;",
    "tvvvzswsVINE LEAF;1xxzswsVINE LEAF;1vvsqwsVINE LEAF;1xxsqwsVINE LEAF;vvzswsBUD;xxzswsBUD;",
    "vvsqwsBUD;xxsqwsBUD;tvvvzswsBUD;1xxzswsBUD;1vvsqwsBUD;1xxsqwsBUD;HOLLOW QUILTxywh;4INquxy;",
    "SOLID QUILTxywh;4INquxy;usROCKET;zkROCKET;mROCKET;spROCKET;xluuETwh;tvxluuETwh;uuweETwh;",
    "tvuuweETwh;1AMPERSANDwh;SWASH AMPERSANDwh;xktvfzcrnxavewh;3rnxavewh;2uzfrnxavewh;",
    "tvINTERROBANGwh;xkINTERROBANGwh;tvxkINTERROBANGwh;VERYtvxw;2xexw;CHECKER BOARD;",
    "xeCHECKER BOARD;ROCKET;HELICOPTER;STEAM LOCOMOTIVE;RAILWAY CAR;HIGH-SPEED TRAIN;",
    "2pBULLET NOSE;TRAIN;METRO;uvRAIL;STATION;TRAM;1CAR;BUS;ONCOMING BUS;TROLLEYBUS;BUSyb;",
    "MINIBUS;AMBULANCE;FIRE ENGINE;POLICE CAR;ONCOMING POLICE CAR;TAXI;ONCOMING TAXI;",
    "AUTOMOBILE;ONCOMING AUTOMOBILE;RECREATIONAL VEHICLE;DELIVERY TRUCK;ARTICULATED LORRY;",
    "TRACTOR;MONORAIL;MOUNTAIN RAILWAY;SUSPENSION RAILWAY;MOUNTAIN CABLEWAY;AERIAL TRAMWAY;",
    "SHIP;ROWBOAT;SPEEDBOAT;tzTRAFFICuv;znTRAFFICuv;CONSTRUCTIONn;POLICE CARS REVOLVINGuv;",
    "yzFLAG ON POST;DOOR;NO ENTRYn;SMOKINGyi;NO SMOKINGyi;PUT LITTER IN ITS PLACEyi;",
    "DOvwLITTERyi;POTABLE WATERyi;NON-POTABLE WATERyi;BICYCLE;NO BICYCLES;BICYCLIST;",
    "MOUNTAIN BICYCLIST;PEDESTRIAN;NO PEDESTRIANS;CHILDRENrt;MENSyi;WOMENSyi;RESTROOM;BABYyi;",
    "TOILET;WATER CLOSET;SHOWER;BATH;BATHTUB;PASSPORT CONTROL;CUSTOMS;BAGGAGE CLAIM;jLUGGAGE;",
    "yxpROUNDED CORNERS;PROHIBITEDn;rhINFORMATION SOURCE;BOYSyi;GIRLSyi;COUCHbLAMP;",
    "SLEEPING ACCOMMODATION;SHOPPING BAGS;BELLHOP BELL;BED;PLACEvzWORSHIP;OCTAGONALn;",
    "SHOPPING TROLLEY;STUPA;PAGODA;HINDU TEMPLE;HUT;ELEVATOR"]⟩,
  ⟨0x1F6DD, ["PLAYGROUND SLIDE;WHEEL;xhBUOY;HAMMERbWRENCH;SHIELD;OIL DRUM;MOTORWAY;",
    "RAILWAY TRACK;MOTOR BOAT;zhMILITARY AIRPLANE;1AIRPLANE;1oAIRPLANE;oAIRPLANE;",
    "NORTHEAST-POINTING AIRPLANE;AIRPLANE DEPARTURE;1ARRIVING"]⟩,
  ⟨0x1F6F0, ["SATELLITE;ONCOMING FIRE ENGINE;DIESEL LOCOMOTIVE;PASSENGER SHIP;SCOOTER;",
    "MOTOR SCOOTER;CANOE;SLED;FLYING SAUCER;SKATEBOARD;AUTO RICKSHAW;PICKUP TRUCK;ROLLER SKATE"]⟩,
  ⟨0x1F700, ["ALCHEMICALyiFOR QUINTESSENCE;3AIR;3FIRE;3EARTH;3WATER;3AQUAFORTIS;3AQUA REGIA;",
    "4REGIA-2;4VITAE;4VITAE-2;3VINEGAR;3VINEGAR-2;3VINEGAR-3;3SULFUR;3PHILOSOPHERS SULFUR;",
    "3quSULFUR;3MERCURY SUBLIMATE;4SUBLIMATE-2;4SUBLIMATE-3;3CINNABAR;3SALT;3NITRE;3VITRIOL;",
    "3VITRIOL-2;3ROCK SALT;4SALT-2;3GOLD;3SILVER;3IRON ORE;4ORE-2;3CROCUSvzIRON;3REGULUSvzIRON;",
    "3COPPER ORE;3IRON-COPPER ORE;3SUBLIMATEvzCOPPER;3CROCUSvzCOPPER;5COPPER-2;",
    "3COPPER ANTIMONIATE;3SALTvzCOPPER ANTIMONIATE;3SUBLIMATEvzSALTvzCOPPER;3VERDIGRIS;",
    "3TIN ORE;3LEAD ORE;3ANTIMONY ORE;3SUBLIMATEvzANTIMONY;3SALTvzANTIMONY;",
    "3SUBLIMATEvzSALTvzANTIMONY;3VINEGARvzANTIMONY;3REGULUSvzANTIMONY;5ANTIMONY-2;3REGULUS;",
    "3REGULUS-2;3REGULUS-3;3REGULUS-4;3ALKALI;3ALKALI-2;3MARCASITE;3SAL-AMMONIAC;3ARSENIC;",
    "3REALGAR;3REALGAR-2;3AURIPIGMENT;3BISMUTH ORE;3TARTAR;3TARTAR-2;3QUICK LIME;3BORAX;",
    "3BORAX-2;3BORAX-3;3ALUM;3OIL;3SPIRIT;3TINCTURE;3GUM;3WAX;3POWDER;3CALX;3TUTTY;",
    "3CAPUT MORTUUM;3SCEPTERvzJOVE;3CADUCEUS;3TRIDENT;3STARRED TRIDENT;3LODESTONE;3SOAP;3URINE;",
    "3HORSE DUNG;3ASHES;3POT ASHES;3BRICK;3POWDERED BRICK;3AMALGAM;3STRATUM SUPER STRATUM;",
    "5STRATUM-2;3SUBLIMATION;3PRECIPITATE;3DISTILL;3DISSOLVE;3DISSOLVE-2;3PURIFY;3PUTREFACTION;",
    "3CRUCIBLE;3CRUCIBLE-2;3CRUCIBLE-3;3CRUCIBLE-4;3CRUCIBLE-5;3ALEMBIC;3BATHvzMARY;5VAPOURS;",
    "3RETORT;3HOUR;3NIGHT;3DAY-NIGHT;3MONTH;3tnDRAM;4OUNCE"]⟩,
  ⟨0x1F780, ["quurISOSCELESlyx;1zhISOSCELESlyx;1xgISOSCELESlyx;1soISOSCELESlyx;1SLIGHTLYorg;",
    "vhBOLDzurg;BOLDzurg;tvzurg;VERYtvzurg;EXTREMELYtvzurg;zurgCONTAININGquorg;ROUND TARGET;",
    "quTINYxy;1SLIGHTLYoxy;uvzuxy;vhzuxy;BOLDzuxy;tvzuxy;VERYtvzuxy;EXTREMELYtvzuxy;",
    "zuxyCONTAININGquVERYoxy;4vhxy;xyTARGET;quTINYsg;1VERYosg;1vhosg;zusgCONTAININGquVERYosg;",
    "4vhsg;sgTARGET;quTINY LOZENGE;1VERYoLOZENGE;1vhoLOZENGE;zuLOZENGE CONTAININGquoLOZENGE;",
    "THINtjrs;uvtjrs;vhtjrs;BOLDtjrs;VERY BOLDtjrs;1tvtjrs;EXTREMELYtvtjrs;THIN SALTIRE;",
    "uvSALTIRE;vhSALTIRE;BOLD SALTIRE;tvSALTIRE;VERYtvSALTIRE;EXTREMELYtvSALTIRE;uvtcSPOKEDqp;",
    "vhtcSPOKEDqp;BOLDtcSPOKEDqp;tvtcSPOKEDqp;VERYtvtcSPOKEDqp;EXTREMELYtvtcSPOKEDqp;",
    "uvxuSPOKEDqp;vhxuSPOKEDqp;BOLDxuSPOKEDqp;tvxuSPOKEDqp;VERYtvxuSPOKEDqp;",
    "EXTREMELYtvxuSPOKEDqp;uvsrSPOKEDqp;vhsrSPOKEDqp;BOLDsrSPOKEDqp;tvsrSPOKEDqp;",
    "VERYtvsrSPOKEDqp;uvyqwrquya;vhyqwrquya;yqwrquya;vhyqwrPINWHEELya;uvtdwrquya;vhtdwrquya;",
    "tdwrquya;vhtdwrPINWHEELya;xeuvtdwrPINWHEELya;uvtcwrquya;tvtcwrquya;vhxuwrquya;tvxuwrquya;",
    "xuwrPINWHEELya;vhsrwrquya;tvsrwrquya;VERYtvsrwrquya;tvsrwrPINWHEELya;uvTWELVEwrquya;",
    "tvTWELVEwrquya;3PINWHEELya;rhyx;vprhyx;rhxy;vprhxy"]⟩,
  ⟨0x1F7E0, ["upORANGErg;1YELLOWrg;1GREENrg;1PURPLErg;1BROWNrg;1REDxy;1BLUExy;1ORANGExy;",
    "1YELLOWxy;1GREENxy;1PURPLExy;1BROWNxy"]⟩,
  ⟨0x1F7F0, ["tvsvn"]⟩,
  ⟨0x1F800, ["uscpoyxqo;zkcpoyxqo;mcpoyxqo;spcpoyxqo;uscpvhyxqo;zkcpvhyxqo;mcpvhyxqo;",
    "spcpvhyxqo;uscpupyxqo;zkcpupyxqo;mcpupyxqo;spcpupyxqo"]⟩,
  ⟨0x1F810, ["uscposwqo;zkcposwqo;mcposwqo;spcposwqo;uscpswqo;zkcpswqo;mcpswqo;spcpswqo;",
    "tvuscpswqo;1zkcpswqo;1mcpswqo;1spcpswqo;1uscpupswqo;1zkcpupswqo;1mcpupswqo;1spcpupswqo;",
    "usyycpNARROW SHAFT;zkyycpNARROW SHAFT;myycpNARROW SHAFT;spyycpNARROW SHAFT;usyycpvhSHAFT;",
    "zkyycpvhSHAFT;myycpvhSHAFT;spyycpvhSHAFT;usyycpBOLD SHAFT;zkyycpBOLD SHAFT;",
    "myycpBOLD SHAFT;spyycpBOLD SHAFT;usyycptvSHAFT;zkyycptvSHAFT;myycptvSHAFT;spyycptvSHAFT;",
    "usyycpVERYtvSHAFT;zkyycpVERYtvSHAFT;myycpVERYtvSHAFT;spyycpVERYtvSHAFT;usFINGER-POSTc;",
    "zkFINGER-POSTc;mFINGER-POSTc;spFINGER-POSTc;usxzc;zkxzc;mxzc;spxzc;usCOMPRESSEDc;",
    "zkCOMPRESSEDc;mCOMPRESSEDc;spCOMPRESSEDc;ustvCOMPRESSEDc;zktvCOMPRESSEDc;mtvCOMPRESSEDc;",
    "sptvCOMPRESSEDc;ustvc;zktvc;mtvc;sptvc"]⟩,
  ⟨0x1F850, ["usxkc;zkxkc;mxkc;spxkc;vvzsxkc;1sqxkc;xxsqxkc;1zsxkc;jlxkc;zgsnxkc"]⟩,
  ⟨0x1F860, ["WIDE-HEADEDusuvqsc;1zkuvqsc;1muvqsc;1spuvqsc;1vvzsuvqsc;2squvqsc;1xxsquvqsc;",
    "2zsuvqsc;1usqsc;1zkqsc;1mqsc;1spqsc;1vvzsqsc;2sqqsc;1xxsqqsc;2zsqsc;1usvhqsc;1zkvhqsc;",
    "1mvhqsc;1spvhqsc;1vvzsvhqsc;2sqvhqsc;1xxsqvhqsc;2zsvhqsc;1ustvqsc;1zktvqsc;1mtvqsc;",
    "1sptvqsc;1vvzstvqsc;2sqtvqsc;1xxsqtvqsc;2zstvqsc;1usVERYtvqsc;1zkVERYtvqsc;1mVERYtvqsc;",
    "1spVERYtvqsc;1vvzsVERYtvqsc;2sqVERYtvqsc;1xxsqVERYtvqsc;2zsVERYtvqsc"]⟩,
  ⟨0x1F890, ["usyxqo;zkyxqo;myxqo;spyxqo;uszucWITHINyxqo;zkzucWITHINyxqo;mzucWITHINyxqo;",
    "spzucWITHINyxqo;uscpNOTCHEDyk;zkcpNOTCHEDyk;mcpNOTCHEDyk;spcpNOTCHEDyk;tvcSHAFT WIDTHwd;",
    "4zeTHIRDS;4wdtn;5THIRD;usBOTTOM-SHADEDzuc;mqwSHADEDzuc;usTOP SHADEDzuc;mTOP SHADEDzuc;",
    "usLEFT-SHADEDzuc;mRIGHT-SHADEDzuc;usRIGHT-SHADEDzuc;mLEFT-SHADEDzuc;",
    "usBACK-TILTED SHADOWEDzuc;mBACK-TILTED SHADOWEDzuc;usFRONT-TILTED SHADOWEDzuc;",
    "mFRONT-TILTED SHADOWEDzuc;zucSHAFT WIDTHwd;4zeTHIRDS;;;cwszkTHENvvzs;2mTHEN CURVINGxxzs"]⟩,
  ⟨0x1F900, ["rhrsFORMEEptdsk;4zesk;2FORMEE;jtnrgptdsk;4yqsk;4zesk;4sj;2rg;DOWNWARD FACINGty;",
    "2NOTCHEDty;2typsj;2NOTCHEDtypsj;PINCHEDtb;zutu;BROWNtu;PINCHING HAND;ZIPPER-MOUTHsz;",
    "MONEY-MOUTHsz;szpTHERMOMETER;NERDsz;THINKINGsz;szpHEAD-BANDAGE;ROBOTsz;HUGGINGsz;",
    "nvzTHE HORNS;CALL ME HAND;xcBACKvzHAND;LEFT-FACING FIST;RIGHT-FACING FIST;HANDSHAKE;",
    "HANDpucbvjtbCROSSED;I LOVE YOU HANDn;szpCOWBOY HAT;CLOWNsz;NAUSEATEDsz;",
    "ROLLING ON THE FLOOR LAUGHING;DROOLINGsz;LYINGsz;szPALM;SNEEZINGsz;szpwdEYEBROWxc;",
    "GRINNINGszpyaEYES;3wdupbwdoEYE;szpFINGER COVERINGrkLIPS;SERIOUSszpSYMBOLS COVERING MOUTH;",
    "SMILINGszpSMILING EYESbHAND COVERING MOUTH;szpweMOUTH VOMITING;SHOCKEDszpEXPLODING HEAD;",
    "PREGNANT WOMAN;BREAST-FEEDING;PALMSzgTOGETHER;SELFIE;PRINCE;MAN IN TUXEDO;",
    "MOTHER CHRISTMAS;SHRUG;PERSON DOING CARTWHEEL;JUGGLING;FENCER;MODERN PENTATHLON;WRESTLERS;",
    "WATER POLO;HANDBALL;DIVING MASK;WILTED FLOWER;DRUMpDRUMSTICKS;CLINKING GLASSES;",
    "TUMBLER GLASS;SPOON;GOAL NET;RIFLE;FIRST PLACE MEDAL;SECOND PLACE MEDAL;THIRD PLACE MEDAL;",
    "BOXING GLOVE;MARTIAL ARTS UNIFORM;CURLING STONE;LACROSSE STICKbBALL;SOFTBALL;FLYING DISC;",
    "CROISSANT;AVOCADO;CUCUMBER;BACON;POTATO;CARROT;BAGUETTE BREAD;GREEN SALAD;",
    "SHALLOW PANvzFOOD;STUFFED FLATBREAD;EGG;GLASSvzMILK;PEANUTS;KIWIFRUIT;PANCAKES;DUMPLING;",
    "FORTUNE COOKIE;TAKEOUT BOX;CHOPSTICKS;BOWLpSPOON;CUPpSTRAW;COCONUT;BROCCOLI;PIE;PRETZEL;",
    "CUTvzMEAT;SANDWICH;CANNED FOOD;LEAFY GREEN;MANGO;MOON CAKE;BAGEL;",
    "SMILINGszpSMILING EYESbyqHEARTS;YAWNINGsz;SMILINGszpTEAR;szpPARTY HORNbPARTY HAT;",
    "2UNEVEN EYESbWAVY MOUTH;OVERHEATEDsz;FREEZINGsz;NINJA;DISGUISEDsz;szHOLDING BACK TEARS;",
    "1pPLEADING EYES;SARI;LAB COAT;GOGGLES;HIKING BOOT;FLAT SHOE;CRAB;LIONsz;SCORPION;TURKEY;",
    "UNICORNsz;EAGLE;DUCK;BAT;SHARK;OWL;FOXsz;BUTTERFLY;DEER;GORILLA;LIZARD;RHINOCEROS;SHRIMP;",
    "SQUID;GIRAFFEsz;ZEBRAsz;HEDGEHOG;SAUROPOD;T-REX;CRICKET;KANGAROO;LLAMA;PEACOCK;",
    "HIPPOPOTAMUS;PARROT;RACCOON;LOBSTER;MOSQUITO;MICROBE;BADGER;SWAN;MAMMOTH;DODO;SLOTH;OTTER;",
    "ORANGUTAN;SKUNK;FLAMINGO;OYSTER;BEAVER;BISON;SEAL;GUIDE DOG;PROBING CANE;",
    "EMOJI COMPONENT RED HAIR;2rvHAIR;2BALD;2zuHAIR;BONE;LEG;FOOT;TOOTH;SUPERHERO;SUPERVILLAIN;",
    "SAFETY VEST;EARpHEARING AID;MOTORIZED WHEELCHAIR;MANUAL WHEELCHAIR;MECHANICAL ARM;1LEG;",
    "CHEESE WEDGE;CUPCAKE;SALT SHAKER;BEVERAGE BOX;GARLIC;ONION;FALAFEL;WAFFLE;BUTTER;",
    "MATE DRINK;ICE CUBE;BUBBLE TEA;TROLL;STANDING PERSON;KNEELING PERSON;DEAF PERSON;",
    "szpMONOCLE;ADULT;CHILD;OLDER ADULT;BEARDED PERSON;PERSONpHEADSCARF;1IN STEAMY ROOM;",
    "1CLIMBING;1IN LOTUS POSITION;MAGE;FAIRY;VAMPIRE;MERPERSON;ELF;GENIE;ZOMBIE;BRAIN;ORANGEtu;",
    "BILLED CAP;SCARF;GLOVES;COAT;SOCKS;RED GIFT ENVELOPE;FIRECRACKER;JIGSAW PUZZLE PIECE;",
    "TEST TUBE;PETRI DISH;DNAfHELIX;COMPASS;ABACUS;FIRE EXTINGUISHER;TOOLBOX;BRICK;MAGNET;",
    "LUGGAGE;LOTION BOTTLE;SPOOLvzTHREAD;BALLvzYARN;SAFETY PIN;TEDDY BEAR;BROOM;BASKET;",
    "ROLLvzPAPER;qrvzSOAP;SPONGE;RECEIPT;NAZAR AMULET;vqrfKING;2QUEEN;2ROOK;2BISHOP;2un;2PAWN;",
    "zurfunxiFORTY-FIVEsb;qurfunxiFORTY-FIVEsb;vqrfunxiFORTY-FIVEsb;zurfKINGxivtsb;",
    "2QUEENxivtsb;2ROOKxivtsb;2BISHOPxivtsb;2unxivtsb;2PAWNxivtsb;qurfKINGxivtsb;2QUEENxivtsb;",
    "2ROOKxivtsb;2BISHOPxivtsb;2unxivtsb;2PAWNxivtsb;vqrfKINGxivtsb;2QUEENxivtsb;2ROOKxivtsb;",
    "2BISHOPxivtsb;2unxivtsb;2PAWNxivtsb;zurfunxiwduaTHIRTY-FIVEsb;qurfunxiwduaTHIRTY-FIVEsb;",
    "vqrfunxiwduaTHIRTY-FIVEsb;zurfzcKING;3QUEEN;3ROOK;3BISHOP;3un;3PAWN;qurfzcKING;3QUEEN;",
    "3ROOK;3BISHOP;3un;3PAWN;vqrfzcKING;3QUEEN;3ROOK;3BISHOP;3un;3PAWN;",
    "zurfunxizeuaTWENTY-FIVEsb;qurfunxizeuaTWENTY-FIVEsb;vqrfunxizeuaTWENTY-FIVEsb;",
    "zurfKINGxizeuaxpsb;2QUEENxizeuaxpsb;2ROOKxizeuaxpsb;2BISHOPxizeuaxpsb;2unxizeuaxpsb;",
    "2PAWNxizeuaxpsb;qurfKINGxizeuaxpsb;2QUEENxizeuaxpsb;2ROOKxizeuaxpsb;2BISHOPxizeuaxpsb;",
    "2unxizeuaxpsb;2PAWNxizeuaxpsb;vqrfKINGxizeuaxpsb;2QUEENxizeuaxpsb;2ROOKxizeuaxpsb;",
    "2BISHOPxizeuaxpsb;2unxizeuaxpsb;2PAWNxizeuaxpsb;zurfunxiyquaFIFTEENsb;",
    "qurfunxiyquaFIFTEENsb;vqrfunxiyquaFIFTEENsb;zurfEQUIHOPPER;qurfEQUIHOPPER;vqrfEQUIHOPPER;",
    "zurfEQUIHOPPERxivtsb;qurfEQUIHOPPERxivtsb;vqrfEQUIHOPPERxivtsb;zurfKNIGHT-QUEEN;",
    "2KNIGHT-ROOK;2KNIGHT-BISHOP;qurfKNIGHT-QUEEN;2KNIGHT-ROOK;2KNIGHT-BISHOP"]⟩,
  ⟨0x1FA60, ["XIANGQI RED GENERAL;2MANDARIN;2ELEPHANT;2HORSE;2CHARIOT;2CANNON;2SOLDIER;",
    "1quGENERAL;2MANDARIN;2ELEPHANT;2HORSE;2CHARIOT;2CANNON;2SOLDIER;;;BALLET SHOES;",
    "ONE-PIECE SWIMSUIT;BRIEFS;SHORTS;THONG SANDAL"]⟩,
  ⟨0x1FA78, ["DROPvzBLOOD;ADHESIVE BANDAGE;STETHOSCOPE;X-RAY;CRUTCH"]⟩,
  ⟨0x1FA80, ["YO-YO;KITE;PARACHUTE;BOOMERANG;MAGIC WAND;PINATA;NESTING DOLLS"]⟩,
  ⟨0x1FA90, ["RINGED PLANET;CHAIR;RAZOR;AXE;DIYA LAMP;BANJO;MILITARY HELMET;ACCORDION;uyDRUM;",
    "COIN;CARPENTRY SAW;SCREWDRIVER;LADDER;ty;MIRROR;WINDOW;PLUNGER;SEWING NEEDLE;KNOT;BUCKET;",
    "MOUSE TRAP;TOOTHBRUSH;HEADSTONE;PLACARD;ROCK;MIRROR BALL;IDENTIFICATION CARD;uzBATTERY;",
    "HAMSA"]⟩,
  ⟨0x1FAB0, ["FLY;WORM;BEETLE;COCKROACH;POTTED PLANT;WOOD;FEATHER;LOTUS;CORAL;EMPTY NEST;",
    "NESTpEGGS"]⟩,
  ⟨0x1FAC0, ["ANATOMICALtu;LUNGS;PEOPLE HUGGING;PREGNANT MAN;1PERSON;PERSONpCROWN"]⟩,
  ⟨0x1FAD0, ["BLUEBERRIES;BELL PEPPER;OLIVE;FLATBREAD;TAMALE;FONDUE;TEAPOT;POURING LIQUID;",
    "BEANS;JAR"]⟩,
  ⟨0x1FAE0, ["MELTINGsz;SALUTINGsz;szpweEYESbHANDwiMOUTH;2PEEKING EYE;2seMOUTH;sluwsz;",
    "BITING LIP;BUBBLES"]⟩,
  ⟨0x1FAF0, ["HANDpucFINGERbyrCROSSED;mHAND;usHAND;PALMsnHAND;1zgHAND;ucwsAT THE VIEWER;tuHANDS"]⟩,
  ⟨0x1FB00, ["qvSEXTANT-1;1SEXTANT-2;1SEXTANT-12;1SEXTANT-3;1SEXTANT-13;1SEXTANT-23;",
    "1SEXTANT-123;1SEXTANT-4;1SEXTANT-14;1SEXTANT-24;1SEXTANT-124;1SEXTANT-34;1SEXTANT-134;",
    "1SEXTANT-234;1SEXTANT-1234;1SEXTANT-5;1SEXTANT-15;1SEXTANT-25;1SEXTANT-125;1SEXTANT-35;",
    "1SEXTANT-235;1SEXTANT-1235;1SEXTANT-45;1SEXTANT-145;1SEXTANT-245;1SEXTANT-1245;",
    "1SEXTANT-345;1SEXTANT-1345;1SEXTANT-2345;1SEXTANT-12345;1SEXTANT-6;1SEXTANT-16;",
    "1SEXTANT-26;1SEXTANT-126;1SEXTANT-36;1SEXTANT-136;1SEXTANT-236;1SEXTANT-1236;1SEXTANT-46;",
    "1SEXTANT-146;1SEXTANT-1246;1SEXTANT-346;1SEXTANT-1346;1SEXTANT-2346;1SEXTANT-12346;",
    "1SEXTANT-56;1SEXTANT-156;1SEXTANT-256;1SEXTANT-1256;1SEXTANT-356;1SEXTANT-1356;",
    "1SEXTANT-2356;1SEXTANT-12356;1SEXTANT-456;1SEXTANT-1456;1SEXTANT-2456;1SEXTANT-12456;",
    "1SEXTANT-3456;1SEXTANT-13456;1SEXTANT-23456;vajqvsevavjjyuvard;9l;4zivjjyuvard;9l;",
    "5jyuvard;1lqvsezivjjyuzird;9l;4vavjjyuzird;9l;5jyuzird;5vjjyuzivjl;5rdyuvavjl;5jyuvavjl;",
    "5rdyuzivjl;5jyuzivjl;5rdyuzil;1jqvsezirdyuzivjl;5jyuzivjl;5rdyuvavjl;5jyuvavjl;5rdyuval;",
    "5vjjyuvavjl;zilqvsevavjjyuvard;9l;4zivjjyuvard;9l;5jyuvard;1jqvsezivjjyuzird;9l;",
    "4vavjjyuzird;9l;5jyuzird;5vjjyuzivjl;5rdyuvavjl;5jyuvavjl;5rdyuzivjl;5jyuzivjl;5rdyuzil;",
    "1lqvsezirdyuzivjl;5jyuzivjl;5rdyuvavjl;5jyuvavjl;5rdyuval;5vjjyuvavjl;1blbvayzyqwyqv;",
    "jbvablyzyqwyqv;zibjbvayzyqwyqv;jbziblyzyqwyqv;1yzwdwxqv;ziyzwdwxqv;lyzwdwxqv;vayzwdwxqv;",
    "znwdssBLOCK-2;3BLOCK-3;3BLOCK-4;3BLOCK-5;3BLOCK-6;3BLOCK-7;tzwdssBLOCK-2;3BLOCK-3;",
    "3BLOCK-4;3BLOCK-5;3BLOCK-6;3BLOCK-7;jbvawdssqv;2ziwdssqv;lbziwdssqv;2vawdssqv;zibvawdssqv;",
    "tzwdssBLOCK-1358;ziwdwxqv;1yqEIGHTHSqv;1tcEIGHTHSqv;1yqwyqv;1xoEIGHTHSqv;lwdwxqv;",
    "1yqEIGHTHSqv;1tcEIGHTHSqv;1yqwyqv;1xoEIGHTHSqv;jtnvhSHADE;ltnvhSHADE;zitnvhSHADE;",
    "vatnvhSHADE;INVERSEvhSHADE;zitnqvbvatnINVERSEvhSHADE;2INVERSEvhSHADEbvatnqv;;",
    "jtnINVERSEvhSHADEbltnqv;CHECKER BOARD FILL;INVERSE CHECKER BOARD FILL;tvtzFILL;",
    "zijyuvalFILL;1lyuvajFILL;1bvayztnqv;jblyztnqv;zijyzvhSHADE;1lyzvhSHADE;valyzvhSHADE;",
    "1jyzvhSHADE;BOX DRAWINGSuvsezirdyuvjj;8l;4vjjyuvard;5lyuvard;4zirdyuvjjyuvard;8lyuvard;",
    "4vjjyuvardyuvjl;7zirdyuvjl;4zirdyuvjjbvjlyuvard;8lbvjjyuvard;9yuvardyuvjj;8jyuvardyuvjl;",
    "4vjjyuzirdyuvjlyuvard;5lyuzirdyuvjjyuvard;4sg;3tzpznyd;ARROWHEAD-SHAPED POINTER;",
    "INVERSE CHECKve;jtnRUNNING MAN;ltnRUNNING MAN;INVERSEspcpTIPus;uscbzibvawdssqv;",
    "mcbzibvawdssqv;spcblwdssqv;zkcblwdssqv;jtnFOLDER;ltnFOLDER;VOIDEDtjrs;lwexzsj;vpsers;",
    "2vjlyuvard;2sg;zutvSALTIREpROUNDED CORNERS;jTHIRDzulwsuc;vjTHIRDzulwsuc;lTHIRDzulwsuc;",
    "vpxzwzve;STICK FIGURE;2pARMSxc;2LEANINGj;3l;2pDRESS;zuzhCHEVRON"]⟩,
  ⟨0x1FBF0, ["SEGMENTEDshzz;2wd;2ze;2yq;2td;2tc;2xu;2xo;2sr;2vs"]⟩,
  ⟨0xE0001, ["LANGUAGE TAG"]⟩,
  ⟨0xE0020, ["TAG SPACE;1syve;1xave;1vxn;1DOLLARn;1PERCENTn;1AMPERSAND;1APOSTROPHE;1jwn;1lwn;",
    "1qp;1wqn;1rn;1HYPHEN-MINUS;1tfyb;1xw;1shzz;2wd;2ze;2yq;2td;2tc;2xu;2xo;2sr;2vs;1rl;",
    "1SEMICOLON;1utn;1svn;1tin;1wzve;1COMMERCIAL AT;1uqekA;4B;4C;4D;4E;4F;4G;4H;4I;4J;4K;4L;4M;",
    "4N;4O;4P;4Q;4R;4S;4T;4U;4V;4W;4X;4Y;4Z;1jxyqx;1xexw;1lxyqx;1riqb;1uzuw;1thqb;1uqokA;4B;4C;",
    "4D;4E;4F;4G;4H;4I;4J;4K;4L;4M;4N;4O;4P;4Q;4R;4S;4T;4U;4V;4W;4X;4Y;4Z;1jrvqx;1znuw;1lrvqx;",
    "1ys;CANCEL TAG"]⟩,
  ⟨0xE0100, ["VARIATION SELECTOR-17;1SELECTOR-18;1SELECTOR-19;1SELECTOR-20;1SELECTOR-21;",
    "1SELECTOR-22;1SELECTOR-23;1SELECTOR-24;1SELECTOR-25;1SELECTOR-26;1SELECTOR-27;",
    "1SELECTOR-28;1SELECTOR-29;1SELECTOR-30;1SELECTOR-31;1SELECTOR-32;1SELECTOR-33;",
    "1SELECTOR-34;1SELECTOR-35;1SELECTOR-36;1SELECTOR-37;1SELECTOR-38;1SELECTOR-39;",
    "1SELECTOR-40;1SELECTOR-41;1SELECTOR-42;1SELECTOR-43;1SELECTOR-44;1SELECTOR-45;",
    "1SELECTOR-46;1SELECTOR-47;1SELECTOR-48;1SELECTOR-49;1SELECTOR-50;1SELECTOR-51;",
    "1SELECTOR-52;1SELECTOR-53;1SELECTOR-54;1SELECTOR-55;1SELECTOR-56;1SELECTOR-57;",
    "1SELECTOR-58;1SELECTOR-59;1SELECTOR-60;1SELECTOR-61;1SELECTOR-62;1SELECTOR-63;",
    "1SELECTOR-64;1SELECTOR-65;1SELECTOR-66;1SELECTOR-67;1SELECTOR-68;1SELECTOR-69;",
    "1SELECTOR-70;1SELECTOR-71;1SELECTOR-72;1SELECTOR-73;1SELECTOR-74;1SELECTOR-75;",
    "1SELECTOR-76;1SELECTOR-77;1SELECTOR-78;1SELECTOR-79;1SELECTOR-80;1SELECTOR-81;",
    "1SELECTOR-82;1SELECTOR-83;1SELECTOR-84;1SELECTOR-85;1SELECTOR-86;1SELECTOR-87;",
    "1SELECTOR-88;1SELECTOR-89;1SELECTOR-90;1SELECTOR-91;1SELECTOR-92;1SELECTOR-93;",
    "1SELECTOR-94;1SELECTOR-95;1SELECTOR-96;1SELECTOR-97;1SELECTOR-98;1SELECTOR-99;",
    "1SELECTOR-100;1SELECTOR-101;1SELECTOR-102;1SELECTOR-103;1SELECTOR-104;1SELECTOR-105;",
    "1SELECTOR-106;1SELECTOR-107;1SELECTOR-108;1SELECTOR-109;1SELECTOR-110;1SELECTOR-111;",
    "1SELECTOR-112;1SELECTOR-113;1SELECTOR-114;1SELECTOR-115;1SELECTOR-116;1SELECTOR-117;",
    "1SELECTOR-118;1SELECTOR-119;1SELECTOR-120;1SELECTOR-121;1SELECTOR-122;1SELECTOR-123;",
    "1SELECTOR-124;1SELECTOR-125;1SELECTOR-126;1SELECTOR-127;1SELECTOR-128;1SELECTOR-129;",
    "1SELECTOR-130;1SELECTOR-131;1SELECTOR-132;1SELECTOR-133;1SELECTOR-134;1SELECTOR-135;",
    "1SELECTOR-136;1SELECTOR-137;1SELECTOR-138;1SELECTOR-139;1SELECTOR-140;1SELECTOR-141;",
    "1SELECTOR-142;1SELECTOR-143;1SELECTOR-144;1SELECTOR-145;1SELECTOR-146;1SELECTOR-147;",
    "1SELECTOR-148;1SELECTOR-149;1SELECTOR-150;1SELECTOR-151;1SELECTOR-152;1SELECTOR-153;",
    "1SELECTOR-154;1SELECTOR-155;1SELECTOR-156;1SELECTOR-157;1SELECTOR-158;1SELECTOR-159;",
    "1SELECTOR-160;1SELECTOR-161;1SELECTOR-162;1SELECTOR-163;1SELECTOR-164;1SELECTOR-165;",
    "1SELECTOR-166;1SELECTOR-167;1SELECTOR-168;1SELECTOR-169;1SELECTOR-170;1SELECTOR-171;",
    "1SELECTOR-172;1SELECTOR-173;1SELECTOR-174;1SELECTOR-175;1SELECTOR-176;1SELECTOR-177;",
    "1SELECTOR-178;1SELECTOR-179;1SELECTOR-180;1SELECTOR-181;1SELECTOR-182;1SELECTOR-183;",
    "1SELECTOR-184;1SELECTOR-185;1SELECTOR-186;1SELECTOR-187;1SELECTOR-188;1SELECTOR-189;",
    "1SELECTOR-190;1SELECTOR-191;1SELECTOR-192;1SELECTOR-193;1SELECTOR-194;1SELECTOR-195;",
    "1SELECTOR-196;1SELECTOR-197;1SELECTOR-198;1SELECTOR-199;1SELECTOR-200;1SELECTOR-201;",
    "1SELECTOR-202;1SELECTOR-203;1SELECTOR-204;1SELECTOR-205;1SELECTOR-206;1SELECTOR-207;",
    "1SELECTOR-208;1SELECTOR-209;1SELECTOR-210;1SELECTOR-211;1SELECTOR-212;1SELECTOR-213;",
    "1SELECTOR-214;1SELECTOR-215;1SELECTOR-216;1SELECTOR-217;1SELECTOR-218;1SELECTOR-219;",
    "1SELECTOR-220;1SELECTOR-221;1SELECTOR-222;1SELECTOR-223;1SELECTOR-224;1SELECTOR-225;",
    "1SELECTOR-226;1SELECTOR-227;1SELECTOR-228;1SELECTOR-229;1SELECTOR-230;1SELECTOR-231;",
    "1SELECTOR-232;1SELECTOR-233;1SELECTOR-234;1SELECTOR-235;1SELECTOR-236;1SELECTOR-237;",
    "1SELECTOR-238;1SELECTOR-239;1SELECTOR-240;1SELECTOR-241;1SELECTOR-242;1SELECTOR-243;",
    "1SELECTOR-244;1SELECTOR-245;1SELECTOR-246;1SELECTOR-247;1SELECTOR-248;1SELECTOR-249;",
    "1SELECTOR-250;1SELECTOR-251;1SELECTOR-252;1SELECTOR-253;1SELECTOR-254;1SELECTOR-255;",
    "1SELECTOR-256"]⟩]

end StructGen.Text.CharacterName
